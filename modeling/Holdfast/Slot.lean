import Holdfast.Day
import Holdfast.Json.Printer
import Holdfast.Json.Shape

/-!
# Slots

A slot is a place in the calendar that can be booked once. Its record gives its number, its day and
whether it is booked.
-/

namespace Holdfast

/-- The number of a slot. -/
abbrev SlotId := UInt64

/-- A day written as a JSON string. -/
def Day.toJson (d : Day) : Json := .text d.text

/-- A day read from a JSON string. -/
def Day.ofJson? (j : Json) : Option Day := do Day.read? (← j.text?)

/-- The text of a slot's number. -/
def SlotId.text (id : SlotId) : String := Text.Decimal.text id.toNat

/-- A slot's number read from a text of digits, with an optional plus sign. -/
def SlotId.read? (s : String) : Option SlotId :=
  (Text.Decimal.readBelow? UInt64.size s.toList).map UInt64.ofNat

/-- What is known of a slot. -/
structure SlotRecord where
  id : SlotId
  day : Day
  booked : Bool
  deriving DecidableEq

namespace SlotRecord

/-- The record as JSON. -/
def toJson (r : SlotRecord) : Json :=
  .record [("slot_id", .word r.id), ("day", r.day.toJson), ("booked", .bool r.booked)]

/-- Reads a record; a slot that does not say so is not booked. -/
def ofJson? (j : Json) : Option SlotRecord := do
  let [id, day, booked] ← j.fields? ["slot_id", "day", "booked"] | none
  return {
    id := ← (← id).word?
    day := ← Day.ofJson? (← day)
    booked := ← (booked.map Json.bool?).getD (some false) }

end SlotRecord

/-- The slot that a request names. -/
def SlotId.ofRequest? (j : Json) : Option SlotId := do
  let [id] ← j.fields? ["slot_id"] | none
  (← id).word?

end Holdfast
