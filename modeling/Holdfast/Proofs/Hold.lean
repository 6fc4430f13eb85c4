import Holdfast.Hold
import Holdfast.Proofs.Day
import Holdfast.Proofs.Json.Shape
import Holdfast.Proofs.SessionId
import Holdfast.Proofs.SortedMap
import Holdfast.Store.Value

/-!
# Reading stored holds

A hold is read back from its stored form, whoever owns it, with or without a connection and whatever
its metadata say (`decode?_encode`); so what the store was given for a hold is that hold, under any key
(`stored_encode`).
-/

namespace Holdfast

/-- A day is read back from its JSON form. -/
theorem Day.ofJson?_toJson (d : Day) : Day.ofJson? d.toJson = some d := by
  simp [ofJson?, toJson, Json.text, Json.text?, read?_text]

namespace HoldRecord

/-- Metadata are read back. -/
theorem metadataOfJson?_record (m : SortedMap String String) :
    metadataOfJson? (.record (m.toList.map fun e => (e.1, .text e.2))) = some m := by
  rw [Json.record, List.map_map, metadataOfJson?, Json.mapM_map_eq_some ?each m.toList]
  case each => exact fun e => rfl
  exact congrArg some m.ofList_toList

/-- A connection is read back. -/
theorem sessionOfJson?_text (s : SessionId) :
    Json.nullable? sessionOfJson? (.text (SessionId.text s)) = some (some s) := by
  simp [Json.nullable?, Json.text, sessionOfJson?, Json.text?, SessionId.read?_text]

/-- The fields of a hold's JSON form. -/
def fields (h : HoldRecord) : List (String × Json) :=
  [("owner", .text h.owner.text)] ++
  (h.session.map fun s => ("session", Json.text (SessionId.text s))).toList ++
  [("slot_id", .word h.slot), ("day", h.day.toJson)] ++
  if h.metadata.size = 0 then []
  else [("metadata", .record (h.metadata.toList.map fun e => (e.1, .text e.2)))]

/-- The JSON form of a hold is the record of its fields. -/
theorem toJson_eq (h : HoldRecord) : h.toJson = .record h.fields := rfl

/-- What the JSON form of a hold says for each field. -/
theorem fields?_toJson (h : HoldRecord) :
    Json.fields? ["owner", "session", "slot_id", "day", "metadata"] h.toJson =
      some [some (.text h.owner.text), h.session.map fun s => .text (SessionId.text s),
        some (.word h.slot), some h.day.toJson,
        if h.metadata.size = 0 then none
        else some (.record (h.metadata.toList.map fun e => (e.1, .text e.2)))] := by
  obtain ⟨owner, session, slot, day, metadata⟩ := h
  rw [toJson_eq, Json.fields?_record]
  · by_cases bare : metadata.size = 0 <;> cases session <;>
      simp [fields, bare, List.lookup_cons]
  · by_cases bare : metadata.size = 0 <;> cases session <;> simp [fields, bare]

/-- A hold is read back from its JSON form. -/
theorem ofJson?_toJson (h : HoldRecord) : ofJson? h.toJson = some h := by
  have session : ((h.session.map fun s => Json.text (SessionId.text s)).map
      (Json.nullable? sessionOfJson?)).getD (some none) = some h.session := by
    cases h.session with
    | none => rfl
    | some s => rw [Option.map_some, Option.map_some, sessionOfJson?_text, Option.getD_some]
  have metadata : ((if h.metadata.size = 0 then none
      else some (Json.record (h.metadata.toList.map fun e => (e.1, .text e.2)))).map
        metadataOfJson?).getD (some .empty) = some h.metadata := by
    split
    · rename_i bare
      have none_kept : h.metadata.entries = [] := List.length_eq_zero_iff.1 bare
      refine congrArg some (SortedMap.ext_get? fun k => ?_)
      exact (congrArg (SortedMap.find k) none_kept).symm
    · rw [Option.map_some, metadataOfJson?_record, Option.getD_some]
  simp only [ofJson?, fields?_toJson, Option.bind_eq_bind, Option.bind_some, Json.text?_text,
    session, Json.word?_word, Day.ofJson?_toJson, metadata, Option.pure_def]

/-- The JSON form of a hold is plain. -/
theorem plain_toJson (h : HoldRecord) : Json.Plain h.toJson := by
  rw [toJson_eq]
  refine Json.plain_record ?_
  intro f mem
  simp only [fields, List.mem_append, List.mem_cons, List.not_mem_nil, or_false, Option.mem_toList,
    Option.map_eq_some_iff] at mem
  rcases mem with ((rfl | ⟨s, -, rfl⟩) | rfl | rfl) | metadata
  · exact Json.plain_text _
  · exact Json.plain_text _
  · exact Json.plain_word _
  · exact Json.plain_text _
  · split at metadata
    · cases metadata
    · obtain rfl := List.mem_singleton.1 metadata
      refine Json.plain_record ?_
      intro f mem
      obtain ⟨e, -, rfl⟩ := List.mem_map.1 mem
      exact Json.plain_text _

/-- **A hold is read back from its stored form.** -/
theorem decode?_encode (h : HoldRecord) : decode? h.encode = some h := by
  rw [decode?, encode, Json.parse?_render h.plain_toJson]
  exact h.ofJson?_toJson

/-- **Holds survive the store**: whoever owns a hold, through whatever connection, of any slot, on any
day of the calendar and whatever its metadata say, what is written for it under any key is read as that
hold and nothing else. -/
theorem stored_encode (key : String) (h : HoldRecord) : stored key h.encode = .ok h := by
  rw [stored, decode?_encode]

-- quotes and control characters are escaped, metadata come by their names, and late years are signed
example : ({
      owner := ⟨"\"é\x01\n"⟩, session := some (BitVec.allOnes 128), slot := 18446744073709551615
      day := ⟨262142, 12, 31, by decide⟩, metadata := .ofList [("b", ""), ("a\\", "\t")] } :
      HoldRecord).encode =
    "\x7b\"owner\":\"\\\"é\\u0001\\n\",\"session\":\"7ZZZZZZZZZZZZZZZZZZZZZZZZZ\"," ++
    "\"slot_id\":18446744073709551615,\"day\":\"+262142-12-31\"," ++
    "\"metadata\":\x7b\"a\\\\\":\"\\t\",\"b\":\"\"\x7d\x7d" := by
  decide +kernel

end HoldRecord
end Holdfast
