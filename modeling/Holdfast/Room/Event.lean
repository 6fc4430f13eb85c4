import Holdfast.Slot

/-!
# What a day's room tells its members

A room event reports one change of a slot, and a snapshot the whole state of a day: the slots that are
booked and the slots that are held, with the seconds left.
-/

namespace Holdfast

/-- A change of a slot, as told to the members of its day's room. -/
inductive RoomEvent where
  | held (slot : SlotId) (day : Day) (ttl : UInt64)
  | released (slot : SlotId) (day : Day)
  | booked (slot : SlotId) (day : Day)
  deriving DecidableEq

namespace RoomEvent

/-- The day whose room is told. -/
def day : RoomEvent → Day
  | held _ d _ => d
  | released _ d => d
  | booked _ d => d

/-- The slot that changed. -/
def slot : RoomEvent → SlotId
  | held s _ _ => s
  | released s _ => s
  | booked s _ => s

/-- The fields of every event. -/
def common (slot : SlotId) (day : Day) : List (String × Json) :=
  [("slot_id", .word slot), ("day", day.toJson)]

/-- The event as JSON. -/
def toJson : RoomEvent → Json
  | held s d ttl => .tagged "slot_held" (.record (common s d ++ [("ttl", .word ttl)]))
  | released s d => .tagged "slot_released" (.record (common s d))
  | booked s d => .tagged "slot_booked" (.record (common s d))

/-- Reads an event. -/
def ofJson? (j : Json) : Option RoomEvent := do
  let (name, content) ← j.tagged?
  match name with
  | "slot_held" =>
    let [slot, day, ttl] ← content.membersOf? ["slot_id", "day", "ttl"] | none
    return held (← (← slot).word?) (← Day.ofJson? (← day)) (← (← ttl).word?)
  | "slot_released" =>
    let [slot, day] ← content.membersOf? ["slot_id", "day"] | none
    return released (← (← slot).word?) (← Day.ofJson? (← day))
  | "slot_booked" =>
    let [slot, day] ← content.membersOf? ["slot_id", "day"] | none
    return booked (← (← slot).word?) (← Day.ofJson? (← day))
  | _ => none

end RoomEvent

/-- A held slot in a snapshot. -/
structure HeldSlot where
  slot : SlotId
  ttl : UInt64
  deriving DecidableEq

namespace HeldSlot

/-- The held slot as JSON. -/
def toJson (h : HeldSlot) : Json := .record [("slot_id", .word h.slot), ("ttl", .word h.ttl)]

/-- Reads a held slot. -/
def ofJson? (j : Json) : Option HeldSlot := do
  let [slot, ttl] ← j.fields? ["slot_id", "ttl"] | none
  return { slot := ← (← slot).word?, ttl := ← (← ttl).word? }

end HeldSlot

/-- The state of every slot of a day that is booked or held. -/
structure DaySnapshot where
  day : Day
  booked : List SlotId := []
  held : List HeldSlot := []
  deriving DecidableEq

namespace DaySnapshot

/-- The snapshot as JSON. -/
def toJson (s : DaySnapshot) : Json :=
  .record [("day", s.day.toJson), ("booked", .array (s.booked.map .word)),
    ("held", .array (s.held.map HeldSlot.toJson))]

/-- Reads a snapshot. -/
def ofJson? (j : Json) : Option DaySnapshot := do
  let [day, booked, held] ← j.fields? ["day", "booked", "held"] | none
  return {
    day := ← Day.ofJson? (← day)
    booked := ← (← booked).listOf? Json.word?
    held := ← (← held).listOf? HeldSlot.ofJson? }

end DaySnapshot
end Holdfast
