import Holdfast.Reservation.Ask

/-!
# What can be had

The status of one slot, the listing of all live holds, and the snapshot of a day. The catalogue alone
decides what is booked.
-/

namespace Holdfast.Reservation

open Program

/-- The status of a slot with a record. -/
def statusOf (r : SlotRecord) : Program Failure SlotStatus := do
  if r.booked then return .booked
  else
    match ← readHold r.id with
    | none => return .free
    | some hold =>
      match ← ask (.remaining (Key.hold r.id)) with
      | some ttl => return .held hold.owner ttl
      | none => return .free

/-- The status of a slot. -/
def status (slot : SlotId) : Program Failure SlotStatus := do statusOf (← find slot)

/-- How many holds a listing asks for at once. -/
def pageSize : Nat := 100

/-- More pages than a listing comes to: there are no more slots, and a page that another one follows has
one at least. A listing could go on for as long as there is a next page; with a bound that it does not
get to, its recursion ends by its shape. -/
def maxPages : Nat := UInt64.size

/-- The rows of the holds on a page. What cannot be decoded is counted and skipped, and so is what has
no time left by now. -/
def rowsOf : List (String × String) → Program Failure (List HoldRow)
  | [] => return []
  | (key, text) :: rest => do
    match HoldRecord.stored key text with
    | .error _ =>
      count .decodeFailures
      rowsOf rest
    | .ok hold =>
      match ← ask (.remaining key) with
      | none => rowsOf rest
      | some ttl => return ⟨hold.slot, hold.owner, hold.day, secondsUp ttl⟩ :: (← rowsOf rest)

/-- The rows of all pages from a cursor on. -/
def rowsFrom (cursor : Option String) : Nat → Program Failure (List HoldRow)
  | 0 => .fail .endlessListing
  | pages + 1 => do
    let page ← ask (.scan Key.holdStart cursor pageSize)
    let rows ← rowsOf page.entries
    match page.next with
    | none => return rows
    | some next => return rows ++ (← rowsFrom (some next) pages)

/-- Every live hold, in the order of the slots. -/
def listHolds : Program Failure (List HoldRow) := do
  let rows ← rowsFrom none maxPages
  return rows.mergeSort fun a b => a.slot ≤ b.slot

/-- A snapshot with the status of one more slot. -/
def addStatus (s : DaySnapshot) (slot : SlotId) : SlotStatus → DaySnapshot
  | .free => s
  | .held _ ttl => { s with held := s.held ++ [⟨slot, secondsUp ttl⟩] }
  | .booked => { s with booked := s.booked ++ [slot] }

/-- A snapshot with the status of some more slots. -/
def addSlots (s : DaySnapshot) : List SlotRecord → Program Failure DaySnapshot
  | [] => return s
  | r :: rest => do addSlots (addStatus s r.id (← statusOf r)) rest

/-- The state of every slot of a day. -/
def snapshot (day : Day) : Program Failure DaySnapshot := do
  let slots ← (perform (.slotsOn day)).bind (orFail .ofCatalogue)
  addSlots { day } slots

end Holdfast.Reservation
