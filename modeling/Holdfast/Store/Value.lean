import Holdfast.Hold
import Holdfast.Text.Quoted

/-!
# Stored values

Holds are stored as JSON texts, and slots that an index names as decimal numbers. What else is found
under a key cannot be decoded.
-/

namespace Holdfast

/-- Why the store gave no answer. -/
inductive StoreError where
  /-- The text under the key is no hold. -/
  | notAHold (key : String)
  /-- The text under the key is no slot number. -/
  | notASlot (key text : String)
  /-- The store could not be reached. -/
  | unavailable (reason : String)
  deriving DecidableEq

namespace StoreError

/-- The error in words. -/
def message : StoreError → String
  | notAHold key => "undecodable value under " ++ key ++ ": not a hold"
  | notASlot key text =>
    "undecodable value under " ++ key ++ ": not a slot id: " ++ Text.Quoted.write text
  | unavailable reason => "store unavailable: " ++ reason

end StoreError

/-- The hold that the text under a key writes. -/
def HoldRecord.stored (key text : String) : Except StoreError HoldRecord :=
  match HoldRecord.decode? text with
  | some hold => .ok hold
  | none => .error (.notAHold key)

/-- The slot that the text under a key writes. -/
def SlotId.stored (key text : String) : Except StoreError SlotId :=
  match SlotId.read? text with
  | some slot => .ok slot
  | none => .error (.notASlot key text)

end Holdfast
