import Holdfast.Reservation.Failure
import Holdfast.Reservation.Outcome
import Holdfast.Reservation.Program
import Holdfast.Store.Key

/-!
# Steps of a reservation

The small programs that the operations on reservations are made of: one request to a backend each, and
transactions that are tried again when something they looked at has changed.
-/

namespace Holdfast.Reservation

open Program

/-- Asks the store. -/
def ask (r : Store.Request) : Program Failure r.Answer :=
  (perform (.store r)).bind (orFail fun reason => .store (.unavailable reason))

/-- What the catalogue knows of a slot. -/
def lookup (slot : SlotId) : Program Failure (Option SlotRecord) :=
  (perform (.slot slot)).bind (orFail .ofCatalogue)

/-- The slot, which has to be in the catalogue. -/
def find (slot : SlotId) : Program Failure SlotRecord := do
  match ← lookup slot with
  | some r => return r
  | none => .fail (.slotNotFound slot)

/-- Which days can be held. -/
def admission : Program Failure Admission := perform .admission

/-- Tells the room of the event's day. -/
def announce (e : RoomEvent) : Program Failure Unit := perform (.announce e)

/-- Counts one more. -/
def count (m : Metric) : Program Failure Unit := perform (.count m 1)

/-- The live hold on a slot. -/
def readHold (slot : SlotId) : Program Failure (Option HoldRecord) := do
  match ← ask (.read (Key.hold slot)) with
  | some text => orFail .store ((HoldRecord.stored (Key.hold slot) text).map some)
  | none => return none

/-- The slot that an index names. -/
def readIndex (key : String) : Program Failure (Option SlotId) := do
  match ← ask (.read key) with
  | some text => orFail .store ((SlotId.stored key text).map some)
  | none => return none

/-- Is the slot being booked? -/
def isFenced (slot : SlotId) : Program Failure Bool := do
  return (← ask (.read (Key.booked slot))).isSome

/-- Carries out a transaction, with a value for when it is committed. -/
def transact {α : Type} (w : Watch) (writes : List Write) (a : α) : Program Failure (Option α) := do
  match ← ask (.exec w writes) with
  | .committed => return some a
  | .aborted => return none

/-- Tries a transaction until it gives a value, at most `attempts` more times of `limit`. -/
def tryUpTo {α : Type} (limit : Nat) (op : Operation) (attempt : Program Failure (Option α)) :
    Nat → Program Failure α
  | 0 => .fail (.retriesExhausted limit)
  | attempts + 1 => do
    match ← attempt with
    | some a => return a
    | none =>
      count (.retries op)
      tryUpTo limit op attempt attempts

/-- Tries a transaction until it gives a value, as often as the policy allows. -/
def retrying {α : Type} (policy : Policy) (op : Operation)
    (attempt : Program Failure (Option α)) : Program Failure α :=
  tryUpTo policy.maxAttempts op attempt policy.maxAttempts

end Holdfast.Reservation
