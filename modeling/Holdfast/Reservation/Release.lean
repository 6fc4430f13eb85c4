import Holdfast.Reservation.Ask

/-!
# Releasing a hold

A claimant gives up a hold that it owns. The entries that name the slot for the holder and for the
connection go in the same transaction, but only while they still name this slot. If there is no hold
to release, such entries are left over from a hold that expired, and they are cleared.
-/

namespace Holdfast.Reservation

open Program

/-- The keys of the entries that may name the slot of a holder's or a connection's hold. -/
def indexKeys (holder : HolderId) (session : Option SessionId) : List String :=
  [Key.holder holder] ++ (session.map Key.session).toList

/-- Of some entries, deletes of those that name the slot. Every entry that is looked at is watched. -/
def staleDeletes (slot : SlotId) (w : Watch) (writes : List Write) :
    List String → Program Failure (Watch × List Write)
  | [] => return (w, writes)
  | key :: keys => do
    let later ← ask (.watch [key])
    if (← readIndex key) = some slot then
      staleDeletes slot (w.merge later) (writes ++ [.delete key]) keys
    else staleDeletes slot (w.merge later) writes keys

/-- Takes a hold away with the entries that name its slot. -/
def removeHold {α : Type} (w : Watch) (slot : SlotId) (hold : HoldRecord) (a : α) :
    Program Failure (Option α) := do
  let (w, writes) ←
    staleDeletes hold.slot w [.delete (Key.hold slot)] (indexKeys hold.owner hold.session)
  transact w writes a

/-- One attempt to release a slot. -/
def tryRelease (slot : SlotId) (claimant : Claimant) : Program Failure (Option ReleaseOutcome) := do
  let w ← ask (.watch [Key.hold slot])
  match ← readHold slot with
  | none => return some .noHold
  | some hold =>
    if hold.isOwnedBy claimant then removeHold w slot hold (.released hold.day)
    else return some .notOwner

/-- Clears those of the claimant's entries that name a slot without a hold. -/
def clearDangling (slot : SlotId) : List String → Program Failure Unit
  | [] => return ()
  | key :: keys => do
    let w ← ask (.watch [key])
    if (← readIndex key) = some slot then
      let _ ← ask (.exec w [.delete key])
    clearDangling slot keys

/-- Releases a slot. -/
def release (policy : Policy) (slot : SlotId) (claimant : Claimant) :
    Program Failure ReleaseOutcome := do
  let outcome ← retrying policy .release (tryRelease slot claimant)
  count (.holdsReleased outcome.reason)
  match outcome with
  | .released day => announce (.released slot day)
  | .noHold => clearDangling slot (indexKeys claimant.holder claimant.session)
  | .notOwner => pure ()
  return outcome

end Holdfast.Reservation
