import Holdfast.Reservation.Release

/-!
# Committing a hold

A hold becomes a booking in three steps. First a mark is put on the slot, in a transaction that rests
on the claimant's hold; from then on nobody acquires the slot. Then the catalogue is told. At last
the hold is taken away; whoever had it, it is the committer's, since the mark kept everyone else out.
-/

namespace Holdfast.Reservation

open Program

/-- How long the mark of a booking lasts, in milliseconds. It outlasts every acquire that saw the slot
before it was booked. -/
def fenceTtl : Nat := 86400000

/-- One attempt to mark a slot as being booked. -/
def tryFence (slot : SlotId) (claimant : Claimant) : Program Failure (Option CommitOutcome) := do
  let w ← ask (.watch [Key.hold slot, Key.booked slot])
  if ← isFenced slot then .fail (.slotBooked slot)
  else
    match ← readHold slot with
    | none => return some .noHold
    | some hold =>
      if hold.isOwnedBy claimant then
        transact w [.put (Key.booked slot) hold.owner.text fenceTtl] (.committed hold.day)
      else return some .notOwner

/-- One attempt to take away whatever hold is left on a slot. -/
def tryClear (slot : SlotId) : Program Failure (Option Unit) := do
  let w ← ask (.watch [Key.hold slot])
  match ← readHold slot with
  | none => return some ()
  | some hold => removeHold w slot hold ()

/-- Tells the catalogue of the booking. If it refuses, the slot goes back to its holder, unless it was
booked already. -/
def bookOrUndo (slot : SlotId) : Program Failure Unit := do
  match ← (perform (.book slot) : Program Failure (Except CatalogueError Unit)) with
  | .ok () => return ()
  | .error (.alreadyBooked id) => .fail (.slotBooked id)
  | .error e =>
    let _ ← ask (.delete (Key.booked slot))
    .fail (.ofCatalogue e)

/-- Books the slot that the claimant holds. -/
def commit (policy : Policy) (slot : SlotId) (claimant : Claimant) :
    Program Failure CommitOutcome := do
  let r ← find slot
  if r.booked then .fail (.slotBooked slot)
  else
    match ← retrying policy .commit (tryFence slot claimant) with
    | .committed _ =>
      bookOrUndo slot
      retrying policy .commit (tryClear slot)
      count .holdsCommitted
      announce (.booked slot r.day)
      return .committed r.day
    | outcome => return outcome

end Holdfast.Reservation
