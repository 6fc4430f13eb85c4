import Holdfast.Proofs.Conduct.Commit
import Holdfast.Proofs.Conduct.Trying

/-!
# The course of a commit

A commit tries to mark the slot; once it has, it books the slot, tries to clear it, and tells the
room. Between the mark and the booking nothing is tried, and after the booking nothing is undone: if
the clearing comes to nothing, the commit fails with the slot booked.

* `Course`: how a commit can end, with what it has heard. `course_of_ends` says that there is no
  other way.
* `announced_last`: the announcement of a booking is the last thing that a commit does.
* `unmarked_last`: after its mark was taken off a commit does nothing more.
-/

namespace Holdfast.Reservation

open Program

open Run (unmarking)

variable {policy : Policy} {slot : SlotId} {claimant : Claimant} {t : List Heard} {x : Effect}

/-! ## Announcements among what was heard -/

/-- What was announced, of what was heard. -/
def events (t : List Heard) : List RoomEvent := t.filterMap Heard.event?

/-- What was announced in two parts. -/
@[simp] theorem events_append (t u : List Heard) : events (t ++ u) = events t ++ events u :=
  List.filterMap_append

/-- Looks and transactions announce nothing. -/
theorem events_eq_nil (tries : ∀ h ∈ t, h.effect.tries = true) : events t = [] := by
  rw [events, List.filterMap_eq_nil_iff]
  rintro ⟨e, reply⟩ mem
  have kind := tries _ mem
  cases e with
  | announce e => cases kind
  | _ => rfl

/-! ## The two halves of a commit -/

/-- What a commit does until it has marked the slot: it gives the slot's record and the outcome of
the marking. -/
def opening (policy : Policy) (slot : SlotId) (claimant : Claimant) :
    Program Failure (SlotRecord × CommitOutcome) := do
  let r ← find slot
  if r.booked then .fail (.slotBooked slot)
  else
    let outcome ← retrying policy .commit (tryFence slot claimant)
    return (r, outcome)

/-- What a commit does once it has marked the slot. -/
def closing (policy : Policy) (slot : SlotId) (day : Day) : Program Failure CommitOutcome := do
  bookOrUndo slot
  retrying policy .commit (tryClear slot)
  count .holdsCommitted
  announce (.booked slot day)
  return .committed day

/-- A commit is made of two halves. -/
theorem commit_eq (policy : Policy) (slot : SlotId) (claimant : Claimant) :
    commit policy slot claimant = opening policy slot claimant >>= fun (r, outcome) =>
      match outcome with
      | .committed _ => closing policy slot r.day
      | outcome => pure outcome := by
  unfold commit opening
  rw [LawfulMonad.bind_assoc]
  congr 1
  funext r
  split
  · rfl
  · rw [LawfulMonad.bind_assoc]
    rfl

/-- Nothing but looks and transactions comes before the mark. -/
theorem tries_opening (policy : Policy) (slot : SlotId) (claimant : Claimant) :
    (opening policy slot claimant).Tries := by
  refine (looks_find slot).tries.bind fun r => ?_
  split
  · exact trivial
  · exact (tries_tryUpTo (tries_tryFence slot claimant) _).bind fun _ => trivial

/-- What a commit asks for belongs to one of its halves. -/
theorem asks_commit (asks : (commit policy slot claimant).Asks t x) :
    (x.tries = true ∧ ∀ h ∈ t, h.effect.tries = true) ∨
      ∃ t₀ t₁ day, t = t₀ ++ t₁ ∧ (∀ h ∈ t₀, h.effect.tries = true) ∧
        (closing policy slot day).Asks t₁ x ∧
        ∀ u r, (closing policy slot day).Ends u r →
          (commit policy slot claimant).Ends (t₀ ++ u) r := by
  rw [commit_eq] at asks
  rcases asks_bind.1 asks with first | ⟨t₀, t₁, ⟨r, outcome⟩, rfl, first, second⟩
  · exact .inl ((tries_opening policy slot claimant).asks first)
  · cases outcome with
    | committed day =>
      refine .inr ⟨t₀, t₁, r.day, rfl, (tries_opening policy slot claimant).ends first, second, ?_⟩
      intro u result ends
      rw [commit_eq]
      exact ends_bind.2 (.inr ⟨t₀, u, _, rfl, first, ends⟩)
    | noHold => exact absurd second not_asks_done
    | notOwner => exact absurd second not_asks_done

/-- A commit that is over has not marked the slot, or is through with its second half. -/
theorem ends_commit {r : Except Failure CommitOutcome}
    (ends : (commit policy slot claimant).Ends t r) :
    ((∀ day, r ≠ .ok (.committed day)) ∧ ∀ h ∈ t, h.effect.tries = true) ∨
      ∃ t₀ t₁ day, t = t₀ ++ t₁ ∧ (∀ h ∈ t₀, h.effect.tries = true) ∧
        (closing policy slot day).Ends t₁ r := by
  rw [commit_eq] at ends
  rcases ends_bind.1 ends with ⟨e, failed, rfl⟩ | ⟨t₀, t₁, ⟨record, outcome⟩, rfl, first, second⟩
  · exact .inl ⟨by simp, (tries_opening policy slot claimant).ends failed⟩
  · have before := (tries_opening policy slot claimant).ends first
    cases outcome with
    | committed day => exact .inr ⟨t₀, t₁, record.day, rfl, before, second⟩
    | noHold =>
      obtain ⟨rfl, rfl⟩ := ends_done.1 second
      exact .inl ⟨by simp, by simpa using before⟩
    | notOwner =>
      obtain ⟨rfl, rfl⟩ := ends_done.1 second
      exact .inl ⟨by simp, by simpa using before⟩

/-! ## Booking, or undoing the mark -/

/-- The catalogue accepted the booking of a slot. -/
def booking (slot : SlotId) : Heard := ⟨.book slot, .ok ()⟩

/-- Did the catalogue accept the booking of a slot? -/
def Heard.books : Heard → Bool
  | ⟨.book _, .ok _⟩ => true
  | _ => false

/-- Looks and transactions book nothing. -/
theorem books_eq_false (tries : ∀ h ∈ t, h.effect.tries = true) : ∀ h ∈ t, h.books = false := by
  rintro ⟨e, reply⟩ mem
  have kind := tries _ mem
  cases e with
  | book slot => cases kind
  | _ => rfl

/-- Who tells the catalogue of a booking asks for the booking, or after its refusal for the mark to
be taken off. -/
theorem asks_bookOrUndo (asks : (bookOrUndo slot).Asks t x) :
    (t = [] ∧ x = .book slot) ∨ ∃ e, t = [⟨.book slot, .error e⟩] ∧ x = unmarking slot := by
  rcases asks_ask.1 asks with first | ⟨reply, u, rfl, rest⟩
  · exact .inl first
  · have undone : ∀ e, (ask (.delete (Key.booked slot)) >>= fun _ =>
        (.fail (.ofCatalogue e) : Program Failure Unit)).Asks u x → u = [] ∧ x = unmarking slot := by
      intro e rest
      rcases asks_bind.1 rest with first | ⟨t₀, t₁, a, rfl, -, second⟩
      · rcases asks_bind.1 first with first | ⟨t₀, t₁, reply', rfl, -, second⟩
        · rcases asks_ask.1 first with here | ⟨reply', u', -, after⟩
          · exact here
          · exact absurd after not_asks_done
        · cases reply' with
          | ok a => exact absurd second not_asks_done
          | error reason => exact absurd second not_asks_fail
      · exact absurd second not_asks_fail
    right
    cases reply with
    | ok done => exact absurd rest not_asks_done
    | error e =>
      refine ⟨e, ?_⟩
      cases e with
      | alreadyBooked id => exact absurd rest not_asks_fail
      | unknown id =>
        obtain ⟨rfl, rfl⟩ := undone _ rest
        exact ⟨rfl, rfl⟩
      | unavailable reason =>
        obtain ⟨rfl, rfl⟩ := undone _ rest
        exact ⟨rfl, rfl⟩

/-- Telling the catalogue of a booking succeeds with the booking. -/
theorem ends_bookOrUndo {r : Except Failure Unit} (ends : (bookOrUndo slot).Ends t r) :
    (t = [booking slot] ∧ r = .ok ()) ∨
      (∃ e, r = .error e) ∧ (∀ h ∈ t, h.books = false) ∧ events t = [] := by
  obtain ⟨reply, u, rfl, rest⟩ := ends_ask.1 ends
  cases reply with
  | ok done =>
    obtain ⟨rfl, rfl⟩ := ends_done.1 rest
    exact .inl ⟨rfl, rfl⟩
  | error e =>
    have undone : ∀ e, (ask (.delete (Key.booked slot)) >>= fun _ =>
        (.fail (.ofCatalogue e) : Program Failure Unit)).Ends u r →
          (∃ e, r = .error e) ∧ ∃ reply, u = [⟨unmarking slot, reply⟩] := by
      intro e rest
      rcases ends_bind.1 rest with ⟨e', failed, rfl⟩ | ⟨t₀, t₁, a, rfl, asked, last⟩
      · refine ⟨⟨e', rfl⟩, ?_⟩
        rcases ends_store failed with ⟨a, rfl, -⟩ | ⟨reason, rfl, -⟩ <;> exact ⟨_, rfl⟩
      · obtain ⟨rfl, rfl⟩ := ends_fail.1 last
        refine ⟨⟨_, rfl⟩, ?_⟩
        rcases ends_store asked with ⟨a, rfl, -⟩ | ⟨reason, rfl, -⟩ <;> exact ⟨_, rfl⟩
    right
    cases e with
    | alreadyBooked id =>
      obtain ⟨rfl, rfl⟩ := ends_fail.1 rest
      exact ⟨⟨_, rfl⟩, by simp [Heard.books], rfl⟩
    | unknown id =>
      obtain ⟨⟨e', rfl⟩, reply, rfl⟩ := undone _ rest
      exact ⟨⟨_, rfl⟩, by simp [Heard.books, unmarking], rfl⟩
    | unavailable reason =>
      obtain ⟨⟨e', rfl⟩, reply, rfl⟩ := undone _ rest
      exact ⟨⟨_, rfl⟩, by simp [Heard.books, unmarking], rfl⟩

/-! ## How a commit ends -/

/-- **How a commit ends**: it did not book the slot; or it did, but the clearing came to nothing; or
it booked the slot and cleared it, and told the room. -/
inductive Course (policy : Policy) (slot : SlotId) :
    List Heard → Except Failure CommitOutcome → Prop where
  | unbooked {t : List Heard} {r : Except Failure CommitOutcome}
    (unbooked : ∀ h ∈ t, h.books = false) (silent : events t = [])
    (failed : ∀ day, r ≠ .ok (.committed day)) : Course policy slot t r
  | stuck {t u : List Heard} {e : Failure} (before : ∀ h ∈ t, h.books = false)
    (after : ∀ h ∈ u, h.books = false) (silent : events t = []) (silent' : events u = [])
    (thwarted : (∃ h ∈ u, h.failed = true ∨ h.Garbled) ∨
      u.countP Heard.aborted = policy.maxAttempts) :
    Course policy slot (t ++ booking slot :: u) (.error e)
  | told {t u : List Heard} {day : Day} (before : ∀ h ∈ t, h.books = false)
    (after : ∀ h ∈ u, h.books = false) (silent : events t = [])
    (announced : events u = [.booked slot day]) (reached : ∀ h ∈ u, h.failed = false)
    (agreed : u.countP Heard.aborted < policy.maxAttempts) :
    Course policy slot (t ++ booking slot :: u) (.ok (.committed day))

/-- The second half of a commit, after looks and transactions. -/
theorem course_of_closing {t₀ t₁ : List Heard} {day : Day} {r : Except Failure CommitOutcome}
    (tries : ∀ h ∈ t₀, h.effect.tries = true) (ends : (closing policy slot day).Ends t₁ r) :
    Course policy slot (t₀ ++ t₁) r := by
  have before := books_eq_false tries
  have silent := events_eq_nil tries
  have clears : (retrying policy .commit (tryClear slot)).Tries := tries_tryUpTo (tries_tryClear slot) _
  rcases ends_bind.1 ends with ⟨e, failed, rfl⟩ | ⟨t, u, ⟨⟩, rfl, booked, rest⟩
  · rcases ends_bookOrUndo failed with ⟨-, eq⟩ | ⟨-, unbooked, silent'⟩
    · cases eq
    · exact .unbooked (List.forall_mem_append.2 ⟨before, unbooked⟩) (by simp [silent, silent'])
        (by simp)
  · rcases ends_bookOrUndo booked with ⟨rfl, -⟩ | ⟨⟨e, eq⟩, -⟩
    · rcases ends_bind.1 rest with ⟨e, failed, rfl⟩ | ⟨u₀, u₁, ⟨⟩, rfl, cleared, rest'⟩
      · have kinds := clears.ends failed
        exact .stuck before (books_eq_false kinds) silent (events_eq_nil kinds)
          (aborts_of_ends (reports_tryClear slot) failed)
      · have kinds := clears.ends cleared
        have fine : (∀ h ∈ u₀, h.failed = false) ∧ u₀.countP Heard.aborted < policy.maxAttempts :=
          aborts_of_ends (reports_tryClear slot) cleared
        obtain ⟨counted, v, rfl, rest''⟩ := ends_ask.1 rest'
        obtain ⟨told, v', rfl, last⟩ := ends_ask.1 rest''
        obtain ⟨rfl, rfl⟩ := ends_done.1 last
        rw [List.singleton_append]
        refine .told before ?_ silent ?_ ?_ ?_
        · exact List.forall_mem_append.2 ⟨books_eq_false kinds, by simp [Heard.books]⟩
        · rw [events_append, events_eq_nil kinds]
          rfl
        · exact List.forall_mem_append.2 ⟨fine.1, by simp [Heard.failed]⟩
        · rw [List.countP_append]
          simpa [Heard.aborted] using fine.2
    · cases eq

/-- **A commit ends in no other way.** -/
theorem course_of_ends {r : Except Failure CommitOutcome}
    (ends : (commit policy slot claimant).Ends t r) : Course policy slot t r := by
  rcases ends_commit ends with ⟨failed, tries⟩ | ⟨t₀, t₁, day, rfl, tries, second⟩
  · exact .unbooked (books_eq_false tries) (events_eq_nil tries) failed
  · exact course_of_closing tries second

/-! ## What a commit does last -/

/-- What the second half of a commit asks for: the booking, or at last the mark to be taken off, or
what clears the slot, or at last the announcement. -/
theorem asks_closing {day : Day} (asks : (closing policy slot day).Asks t x) :
    (t = [] ∧ x = .book slot) ∨ (∃ e, t = [⟨.book slot, .error e⟩] ∧ x = unmarking slot) ∨
      ∃ u, t = booking slot :: u ∧ (∀ h ∈ u, h.effect.tries = true) ∧
        (x.tries = true ∨ x = .announce (.booked slot day) ∧
          (closing policy slot day).Ends (t ++ [⟨.announce (.booked slot day), ()⟩])
            (.ok (.committed day))) := by
  have clears : (retrying policy .commit (tryClear slot)).Tries := tries_tryUpTo (tries_tryClear slot) _
  rcases asks_bind.1 asks with first | ⟨t₀, u, ⟨⟩, rfl, booked, second⟩
  · rcases asks_bookOrUndo first with here | undone
    · exact .inl here
    · exact .inr (.inl undone)
  · rcases ends_bookOrUndo booked with ⟨rfl, -⟩ | ⟨⟨e, eq⟩, -⟩
    · rcases asks_bind.1 second with first | ⟨u₀, u₁, ⟨⟩, rfl, cleared, rest⟩
      · obtain ⟨kind, kinds⟩ := clears.asks first
        exact .inr (.inr ⟨u, rfl, kinds, .inl kind⟩)
      · have kinds := clears.ends cleared
        rcases asks_ask.1 rest with ⟨rfl, rfl⟩ | ⟨⟨⟩, v, rfl, rest'⟩
        · exact .inr (.inr ⟨_, rfl, by simpa using kinds, .inl rfl⟩)
        · rcases asks_ask.1 rest' with ⟨rfl, rfl⟩ | ⟨⟨⟩, v', rfl, last⟩
          · refine .inr (.inr ⟨u₀ ++ [⟨.count .holdsCommitted 1, ()⟩], rfl, ?_, .inr ⟨rfl, ?_⟩⟩)
            · refine List.forall_mem_append.2 ⟨kinds, ?_⟩
              simp [Effect.tries, Effect.looks, Effect.spares]
            · unfold closing
              refine ends_bind.2 (.inr ⟨[booking slot], u₀ ++ [⟨.count .holdsCommitted 1, ()⟩,
                ⟨.announce (.booked slot day), ()⟩], (), by simp, booked, ?_⟩)
              refine ends_bind.2 (.inr ⟨u₀, _, (), rfl, cleared, ?_⟩)
              exact ends_ask.2 ⟨(), _, rfl, ends_ask.2 ⟨(), [], rfl, ends_done.2 ⟨rfl, rfl⟩⟩⟩
          · exact absurd last not_asks_done
    · cases eq

/-- **A commit announces nothing but the booking of its slot**, and then it is over and has
succeeded. -/
theorem announced_last {e : RoomEvent}
    (asks : (commit policy slot claimant).Asks t (.announce e)) :
    ∃ day, e = .booked slot day ∧
      (commit policy slot claimant).Ends (t ++ [⟨.announce e, ()⟩]) (.ok (.committed day)) := by
  rcases asks_commit asks with ⟨kind, -⟩ | ⟨t₀, t₁, day, rfl, -, second, whole⟩
  · cases kind
  · rcases asks_closing second with ⟨-, eq⟩ | ⟨e, -, eq⟩ | ⟨u, -, -, kind | ⟨eq, ends⟩⟩
    · cases eq
    · cases eq
    · cases kind
    · obtain rfl := Effect.announce.inj eq
      rw [List.append_assoc]
      exact ⟨day, rfl, whole _ _ ends⟩

/-- Looks and transactions take no mark off. -/
theorem ne_unmarking (tries : x.tries = true) : x ≠ unmarking slot := by
  rintro rfl
  cases tries

/-- **A commit that took its mark off does nothing more.** -/
theorem unmarked_last (asks : (commit policy slot claimant).Asks t x) :
    ∀ h ∈ t, h.effect ≠ unmarking slot := by
  rcases asks_commit asks with ⟨-, kinds⟩ | ⟨t₀, t₁, day, rfl, kinds, second, -⟩
  · exact fun h mem => ne_unmarking (kinds h mem)
  · refine List.forall_mem_append.2 ⟨fun h mem => ne_unmarking (kinds h mem), ?_⟩
    rcases asks_closing second with ⟨rfl, -⟩ | ⟨e, rfl, -⟩ | ⟨u, rfl, kinds', -⟩
    · simp
    · simp [unmarking]
    · exact List.forall_mem_cons.2 ⟨by simp [booking, unmarking],
        fun h mem => ne_unmarking (kinds' h mem)⟩

end Holdfast.Reservation
