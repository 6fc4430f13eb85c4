import Holdfast.Hold

/-!
# Policy and outcomes

What governs holds, and what operations on them come to.
-/

namespace Holdfast.Reservation

/-- What governs holds. -/
structure Policy where
  /-- How long a hold lasts, in milliseconds. -/
  ttl : Nat := 120000
  /-- May a holder hold one slot only? -/
  singleHold : Bool := true
  /-- How often a transaction is tried. -/
  maxAttempts : Nat := 64
  deriving DecidableEq

/-- Why a slot could not be held. -/
inductive Conflict where
  /-- Someone else holds it. -/
  | heldByOther (owner : HolderId) (ttl : Nat)
  /-- The claimant holds another slot. -/
  | holderHasOther (slot : SlotId) (ttl : Nat)
  deriving DecidableEq

/-- The conflict in one word. -/
def Conflict.reason : Conflict → String
  | heldByOther .. => "slot_on_hold"
  | holderHasOther .. => "user_has_other_hold"

/-- What an acquire came to. -/
inductive AcquireOutcome where
  | acquired (hold : HoldRecord) (ttl : Nat) (renewed : Bool)
  | conflict (c : Conflict)

/-- What a release came to. -/
inductive ReleaseOutcome where
  | released (day : Day)
  | noHold
  | notOwner
  deriving DecidableEq

/-- The outcome in one word. -/
def ReleaseOutcome.reason : ReleaseOutcome → String
  | released _ => "released"
  | noHold => "no_hold"
  | notOwner => "not_owner"

/-- What a commit came to. -/
inductive CommitOutcome where
  | committed (day : Day)
  | noHold
  | notOwner
  deriving DecidableEq

/-- The outcome in one word. -/
def CommitOutcome.reason : CommitOutcome → String
  | committed _ => "committed"
  | noHold => "no_hold"
  | notOwner => "not_owner"

/-- Whether a slot can be had. -/
inductive SlotStatus where
  | free
  | held (owner : HolderId) (ttl : Nat)
  | booked
  deriving DecidableEq

/-- The status in one word. -/
def SlotStatus.label : SlotStatus → String
  | free => "FREE"
  | held .. => "HOLD"
  | booked => "BOOKED"

/-- A row of a listing of holds; the time left is in seconds. -/
structure HoldRow where
  slot : SlotId
  owner : HolderId
  day : Day
  ttl : UInt64
  deriving DecidableEq

/-- The row as JSON. -/
def HoldRow.toJson (r : HoldRow) : Json :=
  .record [("slot_id", .word r.slot), ("owner", .text r.owner.text), ("day", r.day.toJson),
    ("ttl", .word r.ttl)]

/-- How many units of a size it takes to hold an amount. -/
def roundUp (unit amount : Nat) : Nat := (amount + unit - 1) / unit

/-- Milliseconds in whole seconds, rounded up, so that a hold that has just begun shows its full time.
The seconds are a word of 64 bits. A time that does not fit would take a clock that never ends, as
the store has one here. -/
def secondsUp (milliseconds : Nat) : UInt64 := UInt64.ofNat (roundUp 1000 milliseconds)

end Holdfast.Reservation
