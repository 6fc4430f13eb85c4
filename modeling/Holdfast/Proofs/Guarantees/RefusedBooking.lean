import Holdfast.Proofs.Conduct.Contents
import Holdfast.Proofs.Register.Ready

/-!
# A refused booking is undone

A commit that nothing else interferes with, in whatever state of a run, asks the catalogue to book its
slot, and the catalogue refuses for a reason other than that the slot is booked. Then the commit takes
its mark off again and fails with that reason. It has announced nothing, and what is live is what was
live before, under every key and with the same deadlines: there was no live mark when it put its own, and
it wrote nothing else. So the slot is as ready as before, and the same commit succeeds once the catalogue
accepts bookings.

A mark that has run out may still be stored under the slot. The commit replaces it and takes it away,
which nobody can see.
-/

namespace Holdfast.Reservation

open Program

namespace World

variable {ε α β : Type} {e : CatalogueError} {w w' : World} {p : Program ε α} {policy : Policy}
  {slot : SlotId} {claimant : Claimant}

/-- Carries out one effect while the catalogue refuses bookings. -/
def performRefusing (e : CatalogueError) (w : World) : (x : Effect) → x.Reply × World
  | .book _ => (.error e, w)
  | x => w.perform x

/-- Runs a program from beginning to end while the catalogue refuses bookings: what the program hears,
how it ends, and what it leaves. -/
def refusing (e : CatalogueError) : Program ε α → World → List Heard × Except ε α × World
  | .done a, w => ([], .ok a, w)
  | .fail f, w => ([], .error f, w)
  | .ask x next, w =>
    let rest := refusing e (next (w.performRefusing e x).1) (w.performRefusing e x).2
    (⟨x, (w.performRefusing e x).1⟩ :: rest.1, rest.2)

/-- A program that tries no booking does not notice. -/
theorem refusing_of_tries (tries : p.Tries) (e : CatalogueError) (w : World) :
    ∃ heard, (∀ h ∈ heard, h.effect.tries = true) ∧ refusing e p w = (heard, w.run p) := by
  induction p generalizing w with
  | done a => exact ⟨[], List.forall_mem_nil _, rfl⟩
  | fail f => exact ⟨[], List.forall_mem_nil _, rfl⟩
  | ask x next ih =>
    obtain ⟨kind, rest⟩ := tries
    have same : w.performRefusing e x = w.perform x := by
      cases x with
      | book slot => cases kind
      | _ => rfl
    obtain ⟨heard, kinds, ended⟩ := ih (w.perform x).1 (rest _) (w.perform x).2
    refine ⟨⟨x, (w.perform x).1⟩ :: heard, List.forall_mem_cons.2 ⟨kind, kinds⟩, ?_⟩
    rw [refusing, same, ended, run_ask]

/-- One after the other. -/
theorem refusing_seq {f : α → Program ε β} {heard : List Heard} {a : α}
    (first : refusing e p w = (heard, .ok a, w')) :
    refusing e (p >>= f) w = (heard ++ (refusing e (f a) w').1, (refusing e (f a) w').2) := by
  induction p generalizing w heard with
  | done b =>
    cases first
    rfl
  | fail f => cases first
  | ask x next ih =>
    obtain ⟨rfl, ended⟩ := Prod.mk.inj first
    have later := ih _ (Prod.ext rfl ended)
    show (_ :: (refusing e (next _ >>= f) _).1, (refusing e (next _ >>= f) _).2) = _
    rw [later]
    rfl

/-- After a failure nothing is done. -/
theorem refusing_seq_error {f : α → Program ε β} {heard : List Heard} {x : ε}
    (first : refusing e p w = (heard, .error x, w')) :
    refusing e (p >>= f) w = (heard, .error x, w') := by
  induction p generalizing w heard with
  | done b => cases first
  | fail f =>
    cases first
    rfl
  | ask x next ih =>
    obtain ⟨rfl, ended⟩ := Prod.mk.inj first
    have later := ih _ (Prod.ext rfl ended)
    show (_ :: (refusing e (next _ >>= f) _).1, (refusing e (next _ >>= f) _).2) = _
    rw [later]

/-- The second half of a commit takes the mark off, and that is all. -/
theorem refusing_closing (other : ∀ id, e ≠ .alreadyBooked id) (policy : Policy) (slot : SlotId)
    (day : Day) (w : World) :
    ∃ taken, refusing e (closing policy slot day) w =
      ([⟨.book slot, .error e⟩, ⟨.store (.delete (Key.booked slot)), .ok taken⟩],
        .error (.ofCatalogue e), w.write [.delete (Key.booked slot)]) := by
  cases e with
  | alreadyBooked id => exact absurd rfl (other id)
  | unknown id => exact ⟨_, rfl⟩
  | unavailable reason => exact ⟨_, rfl⟩

/-- Where no live mark was before, a mark that was put and taken off again leaves nothing behind. -/
theorem sameContents_unmarked (unmarked : w.store.read? w.clock (Key.booked slot) = none)
    (text : String) (ttl : Nat) :
    (w.write [.put (Key.booked slot) text ttl, .delete (Key.booked slot)]).SameContents w := by
  refine ⟨rfl, rfl, ?_⟩
  intro key
  by_cases same : key = Key.booked slot
  · have before : w.store.live? w.clock (Key.booked slot) = none := Option.map_eq_none_iff.1 unmarked
    rw [same, before]
    simp [World.write, Store.apply, Store.remove, Store.live?]
  · have missed : Write.Misses [.put (Key.booked slot) text ttl, .delete (Key.booked slot)] key :=
      .cons (Ne.symm same) (.single (Ne.symm same))
    exact congrArg _ (Store.live?_writes_ne missed)

namespace Legible

variable (legible : w.Legible)

include legible

/-- **A commit asks for no booking but that of a slot that is ready.** -/
theorem ready_of_asks (e : CatalogueError)
    (asks : ∃ h ∈ (refusing e (commit policy slot claimant) w).1, h.effect = .book slot) :
    1 ≤ policy.maxAttempts ∧ ∃ r hold, w.Ready slot claimant r hold := by
  obtain ⟨heard, kinds, opened⟩ := refusing_of_tries (tries_opening policy slot claimant) e w
  -- Nothing but looks and transactions comes before the mark.
  have silent : ∀ {rest}, refusing e (commit policy slot claimant) w ≠ (heard ++ [], rest) := by
    intro rest same
    rw [same, List.append_nil] at asks
    obtain ⟨h, mem, eq⟩ := asks
    have kind := kinds h mem
    rw [eq] at kind
    cases kind
  rw [commit_eq] at silent
  rcases ran : w.run (opening policy slot claimant) with ⟨f | ⟨r, outcome⟩, w₁⟩
  · rw [ran] at opened
    rw [List.append_nil] at silent
    exact absurd (refusing_seq_error opened) silent
  · rw [ran] at opened
    cases outcome with
    | committed day =>
      obtain ⟨attempts, hold, ready⟩ := legible.ready_of_run_opening ran
      exact ⟨attempts, r, hold, ready⟩
    | noHold => exact absurd (refusing_seq opened) silent
    | notOwner => exact absurd (refusing_seq opened) silent

/-- **A commit of a slot that is ready** puts its mark and takes it off again. -/
theorem refusing_commit {r : SlotRecord} {hold : HoldRecord} (attempts : 1 ≤ policy.maxAttempts)
    (ready : w.Ready slot claimant r hold) (other : ∀ id, e ≠ .alreadyBooked id) :
    ∃ heard, events heard = [] ∧ refusing e (commit policy slot claimant) w =
      (heard, .error (.ofCatalogue e), w.write
        [.put (Key.booked slot) hold.owner.text fenceTtl, .delete (Key.booked slot)]) := by
  obtain ⟨heard, kinds, opened⟩ := refusing_of_tries (tries_opening policy slot claimant) e w
  rw [legible.run_opening attempts ready] at opened
  obtain ⟨taken, closed⟩ := refusing_closing other policy slot r.day
    (w.write [.put (Key.booked slot) hold.owner.text fenceTtl])
  refine ⟨heard ++ [⟨.book slot, .error e⟩, ⟨.store (.delete (Key.booked slot)), .ok taken⟩], ?_, ?_⟩
  · rw [events_append, events_eq_nil kinds]
    rfl
  · rw [commit_eq, refusing_seq opened]
    dsimp only
    rw [closed]
    rfl

end Legible

end World

namespace Run

/-- What is live in a run can be read. -/
theorem legible (ρ : Run) (n : Nat) : (ρ.world n).Legible :=
  fun _ _ live => written (live?_iff_stored.1 live).1

variable {ρ : Run} {n : Nat} {e : CatalogueError} {slot : SlotId} {claimant : Claimant}

/-- **A refused booking is undone.** In any state of a run, if a commit comes to ask the catalogue for
the booking, and this is refused for another reason than that the slot is booked, then the commit fails
with that reason, announces nothing, and leaves what was live; and repeated with a catalogue that books,
it succeeds. -/
theorem refused_booking_undone (other : ∀ id, e ≠ .alreadyBooked id)
    (asks : ∃ h ∈ (World.refusing e (commit ρ.policy slot claimant) (ρ.world n)).1,
      h.effect = .book slot) :
    ∃ heard w', World.refusing e (commit ρ.policy slot claimant) (ρ.world n) =
        (heard, .error (.ofCatalogue e), w') ∧
      events heard = [] ∧ w'.SameContents (ρ.world n) ∧
      ∃ r, (ρ.world n).catalogue.get? slot = some r ∧
        (w'.run (commit ρ.policy slot claimant)).1 = .ok (.committed r.day) := by
  have legible := ρ.legible n
  obtain ⟨attempts, r, hold, ready⟩ := legible.ready_of_asks e asks
  obtain ⟨heard, silent, refused⟩ := legible.refusing_commit attempts ready other
  have same := World.sameContents_unmarked ready.unmarked hold.owner.text fenceTtl
  refine ⟨heard, _, refused, silent, same, r, ready.known, ?_⟩
  exact (same.legible legible).run_commit attempts (ready.of_sameContents same)

/-- Someone commits a slot while the catalogue is out of reach, and then the store is, too, so that the
mark stays until it runs out, a day later. Then someone else acquires the slot. -/
def abandonedMark : Run :=
  offering [1]
    ([.begin (.acquire 1 { holder := ⟨"a"⟩ } 1000)] ++ List.replicate 9 (.proceed 0) ++
      [.begin (.commit 1 { holder := ⟨"a"⟩ })] ++ List.replicate 5 (.proceed 1) ++
      [.fail 1 (.catalogue (.unavailable "down")), .fail 1 (.store "down"), .wait fenceTtl] ++
      [.begin (.acquire 1 { holder := ⟨"b"⟩ } 1000)] ++ List.replicate 9 (.proceed 2))

/-- The mark that has run out is still stored when the other one commits, with the catalogue out of reach
again. -/
theorem refused_booking_undone_abandonedMark :
    (abandonedMark.stored? 29 (Key.booked 1)).isSome = true ∧
      (∀ id, CatalogueError.unavailable "down" ≠ .alreadyBooked id) ∧
      (∃ h ∈ (World.refusing (.unavailable "down") (commit {} 1 { holder := ⟨"b"⟩ })
        (abandonedMark.world 29)).1, h.effect = .book 1) ∧
      ∃ heard w', World.refusing (.unavailable "down") (commit {} 1 { holder := ⟨"b"⟩ })
          (abandonedMark.world 29) = (heard, .error (.catalogueUnavailable "down"), w') ∧
        events heard = [] ∧ w'.SameContents (abandonedMark.world 29) ∧
        ∃ r, (abandonedMark.world 29).catalogue.get? 1 = some r ∧
          (w'.run (commit {} 1 { holder := ⟨"b"⟩ })).1 = .ok (.committed r.day) := by
  have other : ∀ id, CatalogueError.unavailable "down" ≠ .alreadyBooked id := by simp
  have asks : ∃ h ∈ (World.refusing (.unavailable "down") (commit {} 1 { holder := ⟨"b"⟩ })
      (abandonedMark.world 29)).1, h.effect = .book 1 := by decide +kernel
  exact ⟨by decide +kernel, other, asks,
    refused_booking_undone (ρ := abandonedMark) other asks⟩

end Run
end Holdfast.Reservation
