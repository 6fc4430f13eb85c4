import Holdfast.Catalogue
import Holdfast.Store.Value

/-!
# Failures of a reservation

Why an operation on reservations came to no outcome. A conflict with another holder is an outcome and
no failure.
-/

namespace Holdfast.Reservation

/-- Why an operation failed. -/
inductive Failure where
  | slotNotFound (slot : SlotId)
  | slotBooked (slot : SlotId)
  /-- The slot's day cannot be held at present; the other days can. -/
  | dayNotEnabled (day : Day) (enabled : List Day)
  | noActivePeriod
  | retriesExhausted (attempts : Nat)
  /-- A listing ran over more pages than any store has. -/
  | endlessListing
  | store (e : StoreError)
  | catalogueUnavailable (reason : String)
  deriving DecidableEq

namespace Failure

/-- A catalogue's error, seen by whoever wanted to reserve. -/
def ofCatalogue : CatalogueError → Failure
  | .unknown slot => .slotNotFound slot
  | .alreadyBooked slot => .slotBooked slot
  | .unavailable reason => .catalogueUnavailable reason

/-- The failure in words. -/
def message : Failure → String
  | slotNotFound slot => "slot " ++ SlotId.text slot ++ " not found"
  | slotBooked slot => "slot " ++ SlotId.text slot ++ " is already booked"
  | dayNotEnabled day _ => "day " ++ day.text ++ " is not enabled for holds"
  | noActivePeriod => "no active admission period"
  | retriesExhausted attempts =>
    "gave up after " ++ Text.Decimal.text attempts ++ " conflicting transaction attempts"
  | endlessListing => "listing does not end"
  | store e => e.message
  | catalogueUnavailable reason =>
    "repository error: " ++ (CatalogueError.unavailable reason).message

/-- The reason in one word, for machines. -/
def code : Failure → String
  | slotNotFound _ => "slot_not_found"
  | slotBooked _ => "slot_booked"
  | dayNotEnabled .. => "day_not_enabled"
  | noActivePeriod => "no_active_period"
  | retriesExhausted _ => "internal"
  | endlessListing => "internal"
  | store _ => "internal"
  | catalogueUnavailable _ => "internal"

end Failure
end Holdfast.Reservation
