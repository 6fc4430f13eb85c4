import Holdfast.Proofs.Conduct.Contents
import Holdfast.Proofs.Guarantees.BookingFence

/-!
# What the answer of a commit says

Once a commit has booked the slot, nothing of it can be undone; but it still has to clear the slot,
and if that comes to nothing it fails. So a commit that says that it committed has booked the slot
and has told the room, once. But not every commit that fails has left the slot as it was: one that
booked the slot fails exactly if, after the booking, the store failed it or aborted as many
transactions as it may try.

* `Thwarted`: what keeps a commit from clearing the slot.
* `committed_iff_booked`: when a commit says that it committed, and what it announces.
* `booked_though_failed`: a run in which a commit fails and the slot is booked.
-/

namespace Holdfast.Reservation.Run

variable {ρ : Run} {n i b : Nat} {slot : SlotId} {claimant : Claimant}
  {r : Except Failure Answer}

/-- From one move until another the store failed the call, or aborted as many of its transactions as
it may try. -/
def Thwarted (ρ : Run) (i b n : Nat) : Prop :=
  (∃ h ∈ ρ.heard i b n, h.failed = true) ∨
    ρ.policy.maxAttempts ≤ (ρ.heard i b n).countP Heard.aborted

/-- A call books a slot exactly if it hears that the slot is booked now. -/
theorem books_iff_hears : ρ.Books b i slot ↔ ρ.Hears b i (.book slot) (.ok ()) := by
  constructor
  · rintro ⟨⟨move, waits⟩, accepted⟩
    exact ⟨waits, .inl ⟨move, accepted.symm⟩⟩
  · rintro ⟨waits, ⟨move, truth⟩ | ⟨fault, -, failed⟩⟩
    · exact ⟨⟨move, waits⟩, truth.symm⟩
    · cases fault <;> cases failed

/-- Where no booking is heard, none is made. -/
theorem not_books_of_heard {a : Nat} (unbooked : ∀ h ∈ ρ.heard i a n, h.books = false)
    (le : a ≤ b) (lt : b < n) : ¬ ρ.Books b i slot := by
  intro books
  have mem : booking slot ∈ ρ.heard i a n := mem_heard.2 ⟨b, le, lt, books_iff_hears.1 books⟩
  cases unbooked _ mem

/-- What keeps a try from its end thwarts the call: what is stored can be read. -/
theorem thwarted_of_heard
    (reason : (∃ h ∈ ρ.heard i b n, h.failed = true ∨ h.Garbled) ∨
      (ρ.heard i b n).countP Heard.aborted = ρ.policy.maxAttempts) : ρ.Thwarted i b n := by
  rcases reason with ⟨h, mem, failed | garbled⟩ | aborted
  · exact .inl ⟨h, mem, failed⟩
  · exact absurd garbled (not_garbled mem)
  · exact .inr (Nat.le_of_eq aborted.symm)

/-- A call that is answered and has a try left is not thwarted. -/
theorem not_thwarted_of_heard (reached : ∀ h ∈ ρ.heard i b n, h.failed = false)
    (agreed : (ρ.heard i b n).countP Heard.aborted < ρ.policy.maxAttempts) :
    ¬ ρ.Thwarted i b n := by
  rintro (⟨h, mem, failed⟩ | aborted)
  · rw [reached h mem] at failed
    cases failed
  · exact Nat.not_le_of_lt agreed aborted

/-- A commit that is over has heard what one of its courses says. -/
theorem course_of_over (call : ρ.call? n i = some (.commit slot claimant)) (ended : ρ.Over n i r) :
    ∃ r', Course ρ.policy slot (ρ.heard i 0 n) r' ∧ r = r'.map .commit := by
  obtain ⟨r', ends, eq⟩ := Program.ends_map ((over_iff call).1 ended)
  exact ⟨r', course_of_ends ends, eq⟩

/-- Where a booking stands in what a commit has heard, it was made, and at no other move. -/
theorem booked_of_heard {t u : List Heard} (heard : ρ.heard i 0 n = t ++ booking slot :: u)
    (before : ∀ h ∈ t, h.books = false) (after : ∀ h ∈ u, h.books = false) :
    ∃ b < n, ρ.Books b i slot ∧ ρ.heard i (b + 1) n = u ∧
      ∀ b' < n, ρ.Books b' i slot → b' = b := by
  obtain ⟨b, -, lt, hears, first, rest⟩ := heard_split (Nat.zero_le n) heard
  refine ⟨b, lt, books_iff_hears.2 hears, rest, ?_⟩
  intro b' lt' books
  rcases Nat.lt_trichotomy b' b with early | rfl | late
  · exact absurd books (not_books_of_heard (first ▸ before) (Nat.zero_le b') early)
  · rfl
  · exact absurd books (not_books_of_heard (rest ▸ after) late lt')

/-- **What the answer of a commit says.** A commit that is over has said that it committed if and
only if it has booked the slot and was not thwarted after that. In this case it has announced the
booking, once, and booked the slot at no other move; in every other case it has announced nothing.
-/
theorem committed_iff_booked (call : ρ.call? n i = some (.commit slot claimant))
    (ended : ρ.Over n i r) :
    ((∃ day, r = .ok (.commit (.committed day))) ↔
      ∃ b < n, ρ.Books b i slot ∧ (∀ b' < n, ρ.Books b' i slot → b' = b) ∧
        ¬ ρ.Thwarted i (b + 1) n) ∧
    (∀ day, r = .ok (.commit (.committed day)) → ρ.told n i = [.booked slot day]) ∧
    ((∀ day, r ≠ .ok (.commit (.committed day))) → ρ.told n i = []) := by
  obtain ⟨r', course, rfl⟩ := course_of_over call ended
  have told : ρ.told n i = events (ρ.heard i 0 n) := rfl
  rw [told]
  generalize heard : ρ.heard i 0 n = t at course
  cases course with
  | unbooked unbooked silent failed =>
    have no : ∀ day, r'.map Answer.commit ≠ .ok (.commit (.committed day)) := by
      intro day committed
      cases r' with
      | error e => cases committed
      | ok outcome => exact failed day (congrArg _ (Answer.commit.inj (Except.ok.inj committed)))
    refine ⟨iff_of_false (fun ⟨day, committed⟩ => no day committed) ?_,
      fun day committed => absurd committed (no day), fun _ => silent⟩
    rintro ⟨b, lt, books, -⟩
    exact not_books_of_heard (heard ▸ unbooked) (Nat.zero_le b) lt books
  | @stuck t u e before after silent silent' thwarted =>
    obtain ⟨b, lt, books, rest, once⟩ := booked_of_heard heard before after
    have no : ∀ day, (Except.error e : Except Failure CommitOutcome).map Answer.commit ≠
        .ok (.commit (.committed day)) := by
      intro day committed
      cases committed
    refine ⟨iff_of_false (fun ⟨day, committed⟩ => no day committed) ?_,
      fun day committed => absurd committed (no day), fun _ => ?_⟩
    · rintro ⟨b', lt', books', -, fine⟩
      obtain rfl := once b' lt' books'
      exact fine (thwarted_of_heard (rest ▸ thwarted))
    · rw [events_append, silent]
      exact silent'
  | @told t u day before after silent announced reached agreed =>
    obtain ⟨b, lt, books, rest, once⟩ := booked_of_heard heard before after
    have fine : ¬ ρ.Thwarted i (b + 1) n :=
      not_thwarted_of_heard (rest ▸ reached) (rest ▸ agreed)
    refine ⟨iff_of_true ⟨day, rfl⟩ ⟨b, lt, books, once, fine⟩, ?_, fun no => absurd rfl (no day)⟩
    rintro day' committed
    obtain rfl := CommitOutcome.committed.inj (Answer.commit.inj (Except.ok.inj committed))
    rw [events_append, silent]
    exact announced

/-- The commit of a slot says that it committed, has booked the slot and has told the room. -/
theorem committing_tells :
    committing.call? 30 1 = some (.commit 1 { holder := ⟨"a"⟩ }) ∧
      committing.Over 30 1 (.ok (.commit (.committed openingDay))) ∧
      (∃ b < 30, committing.Books b 1 1 ∧ ¬ committing.Thwarted 1 (b + 1) 30) ∧
      committing.told 30 1 = [.booked 1 openingDay] := by
  have call : committing.call? 30 1 = some (.commit 1 { holder := ⟨"a"⟩ }) := by decide +kernel
  have ended : committing.Over 30 1 (.ok (.commit (.committed openingDay))) :=
    over_ok_iff.2 (returned_of_committed (by decide +kernel))
  obtain ⟨booked, told, -⟩ := committed_iff_booked call ended
  obtain ⟨b, lt, books, -, fine⟩ := booked.1 ⟨openingDay, rfl⟩
  exact ⟨call, ended, ⟨b, lt, books, fine⟩, told openingDay rfl⟩

/-- A commit books the slot; when it looks for the hold to take away, the store is out of reach. -/
def stranding : Run :=
  offering [1]
    ([.begin (.acquire 1 { holder := ⟨"a"⟩ } 120000)] ++ List.replicate 9 (.proceed 0) ++
      [.begin (.commit 1 { holder := ⟨"a"⟩ })] ++ List.replicate 6 (.proceed 1) ++
      [.fail 1 (.store "down")])

/-- How a call failed. -/
def failure? (ρ : Run) (n i : Nat) : Option Failure :=
  (ρ.state n).calls[i]?.bind fun r =>
    match r.rest with
    | .fail e => some e
    | _ => none

/-- A call that has failed is over. -/
theorem over_of_failure {e : Failure} (h : ρ.failure? n i = some e) : ρ.Over n i (.error e) := by
  obtain ⟨running, there, fails⟩ := Option.bind_eq_some_iff.1 h
  refine ⟨running, there, ?_⟩
  split at fails
  · rename_i finished
    obtain rfl := Option.some.inj fails
    exact finished
  · cases fails

/-- A commit can fail though it has booked the slot, and then nobody is told. -/
theorem booked_though_failed :
    ¬ ∀ (ρ : Run) (n i : Nat) (slot : SlotId) (claimant : Claimant) (r : Except Failure Answer),
      ρ.call? n i = some (.commit slot claimant) → ρ.Over n i r →
        ((∃ b < n, ρ.Books b i slot) ↔ ∃ day, r = .ok (.commit (.committed day))) := by
  intro always
  have ended : stranding.Over 18 1 (.error (.store (.unavailable "down"))) :=
    over_of_failure (by decide +kernel)
  have books : stranding.Books 16 1 1 :=
    ⟨⟨rfl, by decide +kernel⟩,
      Catalogue.book_eq_ok_iff.2 ⟨⟨1, openingDay, false⟩, by decide +kernel, rfl⟩⟩
  obtain ⟨day, committed⟩ :=
    (always stranding 18 1 1 { holder := ⟨"a"⟩ } _ (by decide +kernel) ended).1
      ⟨16, by decide, books⟩
  cases committed

end Holdfast.Reservation.Run
