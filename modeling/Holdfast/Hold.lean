import Holdfast.SessionId
import Holdfast.Slot

/-!
# Holds

A hold keeps a slot for its owner for a while. It may belong to one of the owner's connections; then a
claim made through another connection does not own it, while a claim of the owner as such does.

`HoldRecord.encode` and `HoldRecord.decode?` are the stored form.
-/

namespace Holdfast

/-- Who holds: a caller's identity, as the authentication gives it. -/
structure HolderId where
  text : String
  deriving DecidableEq

/-- Who asks: a holder, and the connection through which the holder asks, if that matters. -/
structure Claimant where
  holder : HolderId
  session : Option SessionId := none
  deriving DecidableEq

/-- A hold on a slot. -/
structure HoldRecord where
  owner : HolderId
  session : Option SessionId := none
  slot : SlotId
  day : Day
  metadata : SortedMap String String := .empty

namespace HoldRecord

/-- A new hold of the claimant on the slot. -/
def new (slot : SlotRecord) (claimant : Claimant) : HoldRecord :=
  { owner := claimant.holder, session := claimant.session, slot := slot.id, day := slot.day }

/-- The holder must be the owner, and a claim through a connection must come through the hold's. -/
def isOwnedBy (h : HoldRecord) (c : Claimant) : Bool :=
  h.owner = c.holder && c.session.all (h.session = some ·)

/-- The hold as JSON. An absent connection and empty metadata are left out. -/
def toJson (h : HoldRecord) : Json :=
  .record <|
    [("owner", .text h.owner.text)] ++
    (h.session.map fun s => ("session", Json.text (SessionId.text s))).toList ++
    [("slot_id", .word h.slot), ("day", h.day.toJson)] ++
    if h.metadata.size = 0 then []
    else [("metadata", .record (h.metadata.toList.map fun (k, v) => (k, .text v)))]

/-- Reads a connection's identifier from a JSON string. -/
def sessionOfJson? (j : Json) : Option SessionId := do SessionId.read? (← j.text?)

/-- Reads metadata: an object whose values are strings; of two members of one name the later counts. -/
def metadataOfJson? : Json → Option (SortedMap String String)
  | .object members => do
    let entries ← members.mapM fun (name, value) => do return (← name, ← value.text?)
    return .ofList entries
  | _ => none

/-- Reads a hold; connection and metadata may be absent. -/
def ofJson? (j : Json) : Option HoldRecord := do
  let [owner, session, slot, day, metadata] ←
    j.fields? ["owner", "session", "slot_id", "day", "metadata"] | none
  return {
    owner := ⟨← (← owner).text?⟩
    session := ← (session.map (Json.nullable? sessionOfJson?)).getD (some none)
    slot := ← (← slot).word?
    day := ← Day.ofJson? (← day)
    metadata := ← (metadata.map metadataOfJson?).getD (some .empty) }

/-- The stored form. -/
def encode (h : HoldRecord) : String := h.toJson.render

/-- Reads the stored form. -/
def decode? (s : String) : Option HoldRecord := do ofJson? (← Json.parse? (Text.glyphs s))

end HoldRecord
end Holdfast
