import Holdfast.Reservation.Acquire
import Holdfast.Reservation.Release

/-!
# Holds of a connection

A connection holds one slot at a time: acquiring another one through it gives up the first, and when
it ends, what it holds is released.
-/

namespace Holdfast.Reservation

/-- The slot recorded for a connection; its hold may have expired. -/
def sessionSlot (session : SessionId) : Program Failure (Option SlotId) :=
  readIndex (Key.session session)

/-- Acquires a slot through a connection. Another slot held through it is released first, and a
failure to do so does not stop the acquire. -/
def acquireForSession (policy : Policy) (slot : SlotId) (holder : HolderId) (session : SessionId) :
    Program Failure AcquireOutcome := do
  let claimant : Claimant := { holder, session := some session }
  match ← sessionSlot session with
  | some previous =>
    if previous ≠ slot then
      let _ ← ((release policy previous claimant).attempt : Program Failure (Except Failure _))
    acquire policy slot claimant
  | none => acquire policy slot claimant

/-- Releases whatever a connection holds that has ended, and forgets what was recorded for it. -/
def endSession (policy : Policy) (holder : HolderId) (session : SessionId) :
    Program Failure (Option ReleaseOutcome) := do
  match ← sessionSlot session with
  | none => return none
  | some slot =>
    let outcome ← release policy slot { holder, session := some session }
    let _ ← ask (.delete (Key.session session))
    return some outcome

end Holdfast.Reservation
