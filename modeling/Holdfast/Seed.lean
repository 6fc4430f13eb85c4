import Holdfast.Catalogue
import Holdfast.Json.Reader

/-!
# Seeds

A seed says what slots there are at the start and which days can be held. It is a JSON document; where
there is none, there are no slots and no day can be held.
-/

namespace Holdfast

/-- The content of a seed. -/
structure Seed where
  enabledDays : Option (List Day) := none
  slots : List SlotRecord := []

/-- What is found where a seed is looked for. -/
inductive SeedFile where
  | missing
  | directory
  | document (octets : List UInt8)

/-- Why a seed could not be loaded. -/
inductive SeedError where
  | invalidData
  | isADirectory
  deriving DecidableEq

namespace Seed

/-- Reads a seed; either part may be absent. -/
def ofJson? (j : Json) : Option Seed := do
  let [days, slots] ← j.fields? ["enabled_days", "slots"] | none
  return {
    enabledDays := ← (days.map (Json.nullable? (Json.listOf? Day.ofJson?))).getD (some none)
    slots := ← (slots.map (Json.listOf? SlotRecord.ofJson?)).getD (some []) }

/-- Loads a seed. -/
def load : SeedFile → Except SeedError Seed
  | .missing => .ok {}
  | .directory => .error .isADirectory
  | .document octets =>
    match (Json.parse? (Text.Octets.decode octets)).bind ofJson? with
    | some seed => .ok seed
    | none => .error .invalidData

/-- The catalogue at the start. -/
def catalogue (s : Seed) : Catalogue := .ofList s.slots

/-- The days that can be held. -/
def admission (s : Seed) : Admission :=
  match s.enabledDays with
  | some ds => .days (DaySet.ofDays ds)
  | none => .closed

end Seed
end Holdfast
