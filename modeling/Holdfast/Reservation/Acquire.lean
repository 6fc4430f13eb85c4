import Holdfast.Reservation.Ask

/-!
# Acquiring a hold

A claimant gets a hold on a slot that is open to holds and free, or renews the hold it has. The hold,
the entry that says what the holder holds and the entry that says what the connection holds are
written in one transaction with one deadline. It rests on the hold, on the mark of a booking and,
where a holder may hold one slot only, on the holder's entry.
-/

namespace Holdfast.Reservation

open Program

/-- The slot, if it can be held at present: it exists, is not booked, and its day is open. -/
def openSlot (slot : SlotId) : Program Failure SlotRecord := do
  match ← admission with
  | .closed => .fail .noActivePeriod
  | .days enabled =>
    let r ← find slot
    if r.booked then .fail (.slotBooked slot)
    else if enabled.contains r.day then return r
    else .fail (.dayNotEnabled r.day enabled.days)

/-- The keys that an acquire rests on. -/
def watchedKeys (policy : Policy) (slot : SlotId) (holder : HolderId) : List String :=
  [Key.hold slot, Key.booked slot] ++ if policy.singleHold then [Key.holder holder] else []

/-- The hold after its owner renewed it. A renewal through another connection moves it there. -/
def renewal (hold : HoldRecord) (claimant : Claimant) : HoldRecord :=
  { hold with session := claimant.session.or hold.session }

/-- What an acquire writes. -/
def placing (policy : Policy) (hold : HoldRecord) (slot : SlotId) (holder : HolderId) (ttl : Nat) :
    List Write :=
  [.put (Key.hold slot) hold.encode ttl] ++
    (if policy.singleHold then [.put (Key.holder holder) (SlotId.text slot) ttl] else []) ++
    (hold.session.map fun s => Write.put (Key.session s) (SlotId.text slot) ttl).toList

/-- Writes a hold, if what the decision rested on still stands. -/
def place (policy : Policy) (w : Watch) (slot : SlotId) (claimant : Claimant) (hold : HoldRecord)
    (ttl : Nat) (renewed : Bool) : Program Failure (Option AcquireOutcome) :=
  transact w (placing policy hold slot claimant.holder ttl) (.acquired hold ttl renewed)

/-- A conflict over the hold under a key, with the time it has left. If it has none left by now, the
acquire has to start over. -/
def conflictOver (key : String) (conflict : Nat → Conflict) :
    Program Failure (Option AcquireOutcome) := do
  return (← ask (.remaining key)).map fun ttl => .conflict (conflict ttl)

/-- Another slot that the holder seems to hold, where that matters. -/
def otherSlot (policy : Policy) (slot : SlotId) (holder : HolderId) :
    Program Failure (Option SlotId) := do
  if policy.singleHold then return (← readIndex (Key.holder holder)).filter (· ≠ slot)
  else return none

/-- Acquires a slot that has no hold. -/
def placeNew (policy : Policy) (w : Watch) (slot : SlotRecord) (claimant : Claimant) (ttl : Nat) :
    Program Failure (Option AcquireOutcome) := do
  let new := HoldRecord.new slot claimant
  match ← otherSlot policy slot.id claimant.holder with
  | none => place policy w slot.id claimant new ttl false
  | some other =>
    let later ← ask (.watch [Key.hold other])
    match ← readHold other with
    | some hold =>
      if hold.owner = claimant.holder then conflictOver (Key.hold other) (.holderHasOther other)
      else place policy (w.merge later) slot.id claimant new ttl false
    | none => place policy (w.merge later) slot.id claimant new ttl false

/-- One attempt to acquire a slot. -/
def tryAcquire (policy : Policy) (slot : SlotRecord) (claimant : Claimant) (ttl : Nat) :
    Program Failure (Option AcquireOutcome) := do
  let w ← ask (.watch (watchedKeys policy slot.id claimant.holder))
  if ← isFenced slot.id then .fail (.slotBooked slot.id)
  else
    match ← readHold slot.id with
    | some hold =>
      if hold.owner = claimant.holder then
        place policy w slot.id claimant (renewal hold claimant) ttl true
      else conflictOver (Key.hold slot.id) (.heldByOther hold.owner)
    | none => placeNew policy w slot claimant ttl

/-- Acquires a slot for some time. -/
def acquireFor (policy : Policy) (slot : SlotId) (claimant : Claimant) (ttl : Nat) :
    Program Failure AcquireOutcome := do
  let r ← openSlot slot
  let outcome ← retrying policy .acquire (tryAcquire policy r claimant ttl)
  match outcome with
  | .acquired _ ttl renewed =>
    count (.holdsAcquired renewed)
    announce (.held slot r.day (secondsUp ttl))
  | .conflict c => count (.holdConflicts c.reason)
  return outcome

/-- Acquires a slot for as long as the policy says. -/
def acquire (policy : Policy) (slot : SlotId) (claimant : Claimant) :
    Program Failure AcquireOutcome := acquireFor policy slot claimant policy.ttl

end Holdfast.Reservation
