import Holdfast.Proofs.Conduct.Course
import Holdfast.Proofs.Register.Release

/-!
# When a commit marks its slot

A commit that runs alone marks the slot exactly if it is ready for it: the catalogue knows it and has not
booked it, it is not marked yet, and the claimant holds it (`Legible.run_opening`,
`Legible.ready_of_run_opening`). If the catalogue then books the slot, nothing is left that could fail,
and the commit succeeds (`Legible.run_commit`). Readiness depends on nothing but the bookings and the live
texts (`Ready.of_sameContents`).
-/

namespace Holdfast.Reservation.World

open Program

variable {policy : Policy} {w v : World} {slot : SlotId} {claimant : Claimant} {r : SlotRecord}
  {hold : HoldRecord}

/-- **The slot is ready to be committed** by the claimant. -/
structure Ready (w : World) (slot : SlotId) (claimant : Claimant) (r : SlotRecord)
    (hold : HoldRecord) : Prop where
  known : w.catalogue.get? slot = some r
  free : r.booked = false
  unmarked : w.store.read? w.clock (Key.booked slot) = none
  held : w.record? slot = some hold
  owned : hold.isOwnedBy claimant = true

/-! ## Worlds with the same contents -/

/-- The same texts are read in them. -/
theorem SameContents.read?_eq (same : w.SameContents v) (key : String) :
    w.store.read? w.clock key = v.store.read? v.clock key := by
  have texts := congrArg (Option.map Prod.fst) (same.live key)
  rwa [Option.map_map, Option.map_map] at texts

/-- If what is live in the one can be read, so can what is live in the other. -/
theorem SameContents.legible (same : w.SameContents v) (legible : v.Legible) : w.Legible := by
  intro key e live
  obtain ⟨e', live', content⟩ : ∃ e', v.store.live? v.clock key = some e' ∧ e'.content = e.content := by
    rw [← Option.map_eq_some_iff, ← same.live key, live]
    rfl
  rw [← (Prod.mk.inj content).1]
  exact legible key e' live'

/-- A slot that is ready in the one is ready in the other. -/
theorem Ready.of_sameContents (ready : v.Ready slot claimant r hold) (same : w.SameContents v) :
    w.Ready slot claimant r hold := by
  refine ⟨?_, ready.free, ?_, ?_, ready.owned⟩
  · rw [same.catalogue, ready.known]
  · rw [same.read?_eq, ready.unmarked]
  · rw [record?, same.read?_eq]
    exact ready.held

/-! ## Marking -/

namespace Legible

variable (legible : w.Legible)

include legible

/-- **A commit marks a slot that is ready.** -/
theorem run_opening (attempts : 1 ≤ policy.maxAttempts) (ready : w.Ready slot claimant r hold) :
    w.run (opening policy slot claimant) = (.ok (r, .committed hold.day),
      w.write [.put (Key.booked slot) hold.owner.text fenceTtl]) := by
  have found : w.run (find slot) = (.ok r, w) := by
    rw [run_find_eq, ready.known]
    rfl
  have fenced : w.run (tryFence slot claimant) = (.ok (some (.committed hold.day)),
      w.write [.put (Key.booked slot) hold.owner.text fenceTtl]) := by
    rw [legible.run_tryFence_eq, ready.unmarked, ready.held]
    exact if_pos ready.owned
  unfold opening
  rw [run_seq found, if_neg (by simp [ready.free]), run_seq (run_retrying attempts fenced)]
  rfl

/-- An attempt to mark a slot that says that it did so has found the claimant's hold and no mark. -/
theorem found_of_run_tryFence {day : Day} {w' : World}
    (run : w.run (tryFence slot claimant) = (.ok (some (.committed day)), w')) :
    w.store.read? w.clock (Key.booked slot) = none ∧
      ∃ hold, w.record? slot = some hold ∧ hold.isOwnedBy claimant = true := by
  rw [legible.run_tryFence_eq] at run
  split at run
  · cases run
  rename_i unmarked
  split at run
  · cases run
  rename_i hold held
  split at run
  · rename_i owned
    exact ⟨by simpa using unmarked, hold, held, owned⟩
  · cases run

/-- **A commit marks no other slot.** -/
theorem ready_of_run_opening {day : Day} {w' : World}
    (run : w.run (opening policy slot claimant) = (.ok (r, .committed day), w')) :
    1 ≤ policy.maxAttempts ∧ ∃ hold, w.Ready slot claimant r hold := by
  -- Nothing else goes on, so no attempt is aborted.
  have decides : ∀ w₁, w.run (tryFence slot claimant) ≠ (.ok none, w₁) := by
    intro w₁ aborted
    rw [legible.run_tryFence_eq] at aborted
    split at aborted
    · cases aborted
    split at aborted
    · cases aborted
    split at aborted <;> cases aborted
  have looked := w.run_find_eq slot
  unfold opening at run
  cases known : w.catalogue.get? slot with
  | none =>
    rw [known] at looked
    rw [run_seq_error looked] at run
    cases run
  | some r' =>
    rw [known] at looked
    rw [run_seq looked] at run
    split at run
    · cases run
    rename_i free
    rcases tried : w.run (retrying policy .commit (tryFence slot claimant)) with ⟨f | outcome, w₁⟩
    · rw [run_seq_error tried] at run
      cases run
    · rw [run_seq tried] at run
      cases run
      obtain ⟨attempts, fenced⟩ := run_of_run_retrying decides tried
      obtain ⟨unmarked, hold, held, owned⟩ := legible.found_of_run_tryFence fenced
      exact ⟨attempts, hold, known, by simpa using free, unmarked, held, owned⟩

/-- After a slot was marked, what is live can still be read. -/
theorem put_booked (slot : SlotId) (text : String) (ttl : Nat) (catalogue : Catalogue) :
    Legible { w.write [.put (Key.booked slot) text ttl] with catalogue } := by
  intro key e live
  by_cases same : key = Key.booked slot
  · rw [same]
    exact .booked slot _
  · refine legible key e ?_
    rw [← live]
    exact (Store.live?_writes_ne (.single (Ne.symm same))).symm

/-- **A commit books a slot that is ready**, if the catalogue is in reach. -/
theorem run_commit (attempts : 1 ≤ policy.maxAttempts) (ready : w.Ready slot claimant r hold) :
    (w.run (commit policy slot claimant)).1 = .ok (.committed r.day) := by
  let marked := w.write [.put (Key.booked slot) hold.owner.text fenceTtl]
  have accepted : (marked.catalogue.book slot).1 = .ok () := by
    show (w.catalogue.book slot).1 = .ok ()
    rw [Catalogue.book, ready.known]
    simp [ready.free]
  have cleared := World.Legible.run_tryClear_eq
    (legible.put_booked slot hold.owner.text fenceTtl (marked.catalogue.book slot).2) slot
  rw [commit_eq, run_seq (legible.run_opening attempts ready)]
  show (marked.run (closing policy slot r.day)).1 = _
  unfold closing
  rw [run_seq (run_bookOrUndo_of_ok accepted), run_seq (run_retrying attempts cleared)]
  rfl

end Legible

end Holdfast.Reservation.World
