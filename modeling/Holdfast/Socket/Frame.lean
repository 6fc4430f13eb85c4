import Holdfast.Reservation.Failure
import Holdfast.Reservation.Outcome
import Holdfast.Room.Event

/-!
# Frames of a live connection

What a client says in a text frame, and what it is told. Frames are tagged JSON values.
-/

namespace Holdfast.Socket

open Reservation

/-- What a client asks for. -/
inductive ClientEvent where
  | joinDay (day : Day)
  | leaveDay (day : Day)
  | holdSlot (slot : SlotId)
  | releaseHold (slot : SlotId)
  deriving DecidableEq

namespace ClientEvent

/-- Reads the day of an event. -/
def dayOf? (content : Json) : Option Day := do
  let [day] ← content.membersOf? ["day"] | none
  Day.ofJson? (← day)

/-- Reads the slot of an event. -/
def slotOf? (content : Json) : Option SlotId := do
  let [slot] ← content.membersOf? ["slot_id"] | none
  (← slot).word?

/-- Reads an event. -/
def ofJson? (j : Json) : Option ClientEvent := do
  let (name, content) ← j.tagged?
  match name with
  | "join_day" => return joinDay (← dayOf? content)
  | "leave_day" => return leaveDay (← dayOf? content)
  | "hold_slot" => return holdSlot (← slotOf? content)
  | "release_hold" => return releaseHold (← slotOf? content)
  | _ => none

/-- Reads a text frame. -/
def ofText? (s : String) : Option ClientEvent := do ofJson? (← Json.parse? (Text.glyphs s))

end ClientEvent

/-- What a client is told. -/
inductive ServerEvent where
  | joinedDay (day : Day)
  | snapshot (s : DaySnapshot)
  | change (e : RoomEvent)
  | holdAck (slot : SlotId) (r : Except Failure AcquireOutcome)
  | releaseAck (slot : SlotId) (r : Except Failure ReleaseOutcome)
  | error (reason : String)

namespace ServerEvent

/-- The content of an answer to a wish to hold. -/
def holdAckJson (slot : SlotId) (r : Except Failure AcquireOutcome) : Json :=
  let rejected (reason : String) (ttl : List (String × Json)) (more : List (String × Json)) : Json :=
    .record ([("ok", .bool false), ("slot_id", .word slot)] ++ ttl ++ [("error", .text reason)] ++ more)
  match r with
  | .ok (.acquired _ ttl renewed) =>
    .record [("ok", .bool true), ("slot_id", .word slot), ("ttl", .word (secondsUp ttl)),
      ("renewed", .bool renewed)]
  | .ok (.conflict (.heldByOther owner ttl)) =>
    rejected (Conflict.heldByOther owner ttl).reason [("ttl", .word (secondsUp ttl))]
      [("held_by", .text owner.text)]
  | .ok (.conflict (.holderHasOther other ttl)) =>
    rejected (Conflict.holderHasOther other ttl).reason [("ttl", .word (secondsUp ttl))]
      [("held_slot_id", .word other)]
  | .error e => rejected e.code [] []

/-- The content of an answer to a wish to release. -/
def releaseAckJson (slot : SlotId) (r : Except Failure ReleaseOutcome) : Json :=
  let released (b : Bool) : Json :=
    .record [("ok", .bool true), ("slot_id", .word slot), ("released", .bool b)]
  let refused (reason : String) : Json :=
    .record [("ok", .bool false), ("slot_id", .word slot), ("error", .text reason)]
  match r with
  | .ok (.released _) => released true
  | .ok .noHold => released false
  | .ok .notOwner => refused ReleaseOutcome.notOwner.reason
  | .error e => refused e.code

/-- The frame as JSON. -/
def toJson : ServerEvent → Json
  | joinedDay day => .tagged "joined_day" (.record [("day", day.toJson)])
  | snapshot s => .tagged "slots_snapshot" s.toJson
  | change e => e.toJson
  | holdAck slot r => .tagged "hold_slot_ack" (holdAckJson slot r)
  | releaseAck slot r => .tagged "release_hold_ack" (releaseAckJson slot r)
  | error reason => .tagged "error" (.record [("error", .text reason)])

end ServerEvent
end Holdfast.Socket
