import Holdfast.Proofs.Hold
import Holdfast.Proofs.Json.Tagged
import Holdfast.Room.Event

/-!
# Wire formats

What is written of a room event, of a snapshot and of a slot's record is read back as the same value,
and so is every other text that a reader must take for it: a tagged value with its content first or
as an array of two, and a record with its members in any order among members of other names, or as
the array of its fields (`read_back`). Members of other names may hold anything and nest as deep as
they like, since nothing of them is read.
-/

namespace Holdfast

namespace HeldSlot

/-- The fields of a held slot. -/
def fields (h : HeldSlot) : List (String × Json) := [("slot_id", .word h.slot), ("ttl", .word h.ttl)]

/-- A held slot is read back from each of its shapes. -/
theorem ofJson?_eq {h : HeldSlot} {j : Json} (shape : Json.RecordOf h.fields j) :
    ofJson? j = some h := by
  have said := shape.fields?_eq (by simp [fields])
  simp only [fields, List.map_cons, List.map_nil] at said
  simp only [ofJson?, said, Option.bind_eq_bind, Option.bind_some, Json.word?_word, Option.pure_def]

/-- Held slots are plain, each in one of its shapes. -/
theorem plain_of_forall₂ {items : List Json} {l : List HeldSlot}
    (each : List.Forall₂ (fun item h => Json.RecordOf (fields h) item) items l) :
    ∀ item ∈ items, Json.Plain item := by
  induction each with
  | nil => simp
  | cons shape _ ih =>
    intro item mem
    rcases List.mem_cons.1 mem with rfl | mem
    · refine shape.plain fun f mem => ?_
      simp only [fields, List.mem_cons, List.not_mem_nil, or_false] at mem
      rcases mem with rfl | rfl <;> exact Json.plain_word _
    · exact ih item mem

end HeldSlot

namespace DaySnapshot

/-- The fields of a snapshot whose held slots are written as the given values. -/
def fields (s : DaySnapshot) (held : List Json) : List (String × Json) :=
  [("day", s.day.toJson), ("booked", .array (s.booked.map .word)), ("held", .array held)]

/-- The value is the snapshot in one of the shapes of a record, each of its held slots in one of
them, too. -/
def WrittenAs (s : DaySnapshot) (j : Json) : Prop :=
  ∃ held, List.Forall₂ (fun item h => Json.RecordOf (HeldSlot.fields h) item) held s.held ∧
    Json.RecordOf (s.fields held) j

/-- The snapshot's own JSON form has one of the shapes. -/
theorem writtenAs_toJson (s : DaySnapshot) : s.WrittenAs s.toJson := by
  refine ⟨s.held.map HeldSlot.toJson, ?_, .record _⟩
  rw [List.forall₂_map_left_iff, List.forall₂_same]
  exact fun h _ => .record h.fields

/-- A snapshot is plain in each of its shapes. -/
theorem WrittenAs.plain {s : DaySnapshot} {j : Json} (h : s.WrittenAs j) : Json.Plain j := by
  obtain ⟨held, each, shape⟩ := h
  refine shape.plain fun f mem => ?_
  simp only [fields, List.mem_cons, List.not_mem_nil, or_false] at mem
  rcases mem with rfl | rfl | rfl
  · exact Json.plain_text _
  · refine Json.plain_array fun item mem => ?_
    obtain ⟨id, -, rfl⟩ := List.mem_map.1 mem
    exact Json.plain_word id
  · exact Json.plain_array (HeldSlot.plain_of_forall₂ each)

/-- A snapshot is read back from each of its shapes. -/
theorem ofJson?_eq {s : DaySnapshot} {j : Json} (h : s.WrittenAs j) : ofJson? j = some s := by
  obtain ⟨held, each, shape⟩ := h
  have said := shape.fields?_eq (by simp [fields])
  simp only [fields, List.map_cons, List.map_nil] at said
  have booked : (Json.array (s.booked.map .word)).listOf? Json.word? = some s.booked :=
    Json.mapM_map_eq_some Json.word?_word s.booked
  have held : (Json.array held).listOf? HeldSlot.ofJson? = some s.held :=
    Json.mapM_eq_some (each.imp fun _ _ shape => HeldSlot.ofJson?_eq shape)
  simp only [ofJson?, said, Option.bind_eq_bind, Option.bind_some, Day.ofJson?_toJson, booked, held,
    Option.pure_def]

end DaySnapshot

namespace SlotRecord

/-- The fields of a slot's record. -/
def fields (r : SlotRecord) : List (String × Json) :=
  [("slot_id", .word r.id), ("day", r.day.toJson), ("booked", .bool r.booked)]

/-- A record is plain in each of its shapes. -/
theorem plain_of_recordOf {r : SlotRecord} {j : Json} (shape : Json.RecordOf r.fields j) :
    Json.Plain j := by
  refine shape.plain fun f mem => ?_
  simp only [fields, List.mem_cons, List.not_mem_nil, or_false] at mem
  rcases mem with rfl | rfl | rfl
  · exact Json.plain_word _
  · exact Json.plain_text _
  · exact trivial

/-- A slot's record is read back from each of its shapes. -/
theorem ofJson?_eq {r : SlotRecord} {j : Json} (shape : Json.RecordOf r.fields j) :
    ofJson? j = some r := by
  have said := shape.fields?_eq (by simp [fields])
  simp only [fields, List.map_cons, List.map_nil] at said
  simp only [ofJson?, said, Option.bind_eq_bind, Option.bind_some, Json.word?_word,
    Day.ofJson?_toJson, Option.map_some, Json.bool?, Option.getD_some, Option.pure_def]

end SlotRecord

namespace RoomEvent

/-- The tag of an event. -/
def name : RoomEvent → String
  | held .. => "slot_held"
  | released .. => "slot_released"
  | booked .. => "slot_booked"

/-- The fields of an event's content. -/
def fields : RoomEvent → List (String × Json)
  | held s d ttl => common s d ++ [("ttl", .word ttl)]
  | released s d => common s d
  | booked s d => common s d

/-- The JSON form of an event is its tag and its content. -/
theorem toJson_eq (e : RoomEvent) : e.toJson = .tagged e.name (.record e.fields) := by
  cases e <;> rfl

/-- What every event says is plain and may be kept. -/
theorem of_mem_fields {e : RoomEvent} {f : String × Json} (mem : f ∈ e.fields) :
    Json.Plain f.2 ∧ f.2.isLegible = true ∧ f.2.depth ≤ 0 := by
  have number : ∀ n : UInt64, Json.Plain (.word n) ∧ (Json.word n).isLegible = true ∧
      (Json.word n).depth ≤ 0 :=
    fun n => ⟨Json.plain_word n, Json.isLegible_word n, Nat.le_refl 0⟩
  have date : ∀ d : Day, Json.Plain d.toJson ∧ d.toJson.isLegible = true ∧ d.toJson.depth ≤ 0 :=
    fun d => ⟨Json.plain_text _, Json.isLegible_text _, Nat.le_refl 0⟩
  cases e with
  | held s d ttl =>
    simp only [fields, common, List.cons_append, List.nil_append, List.mem_cons, List.not_mem_nil,
      or_false] at mem
    rcases mem with rfl | rfl | rfl
    · exact number s
    · exact date d
    · exact number ttl
  | released s d | booked s d =>
    simp only [fields, common, List.mem_cons, List.not_mem_nil, or_false] at mem
    rcases mem with rfl | rfl
    · exact number s
    · exact date d

/-- The content of an event gives its fields back. -/
theorem membersOf?_fields (e : RoomEvent) :
    (Json.record e.fields).membersOf? (e.fields.map (·.1)) = some (e.fields.map fun f => some f.2) :=
  (Json.RecordOf.record e.fields).fields?_eq (by cases e <;> simp [fields, common])

/-- An event is read back from every value that gives its tag and its content. -/
theorem ofJson?_eq {e : RoomEvent} {j : Json}
    (said : j.tagged? = some (e.name, .record e.fields)) : ofJson? j = some e := by
  have content := e.membersOf?_fields
  cases e <;>
    simp only [fields, common, List.cons_append, List.nil_append, List.map_cons, List.map_nil]
      at content
  all_goals
    simp only [ofJson?, said, name, fields, common, List.cons_append, List.nil_append, content,
      Option.bind_eq_bind, Option.bind_some, Json.word?_word, Day.ofJson?_toJson, Option.pure_def]

/-- An event's content is plain. -/
theorem plain_content (e : RoomEvent) : Json.Plain (.record e.fields) :=
  Json.plain_record fun _ mem => (of_mem_fields mem).1

/-- An event's content may be kept until its tag is known. -/
theorem content_kept (e : RoomEvent) : (Json.record e.fields).isLegible = true ∧
    (Json.record e.fields).depth + 1 ≤ Json.maxDepth := by
  refine ⟨Json.isLegible_record fun _ mem => (of_mem_fields mem).2.1, ?_⟩
  have : (Json.record e.fields).depth ≤ 1 :=
    Json.depth_record_le fun _ mem => (of_mem_fields mem).2.2
  exact Nat.le_trans (Nat.succ_le_succ this) (by decide)

/-- An event is read back from its JSON form, from the same object with the content first, and from
the array of tag and content. -/
theorem ofText?_shapes (e : RoomEvent) :
    Json.ofText? ofJson? e.toJson.render = some e ∧
    Json.ofText? ofJson?
      (Json.record [("data", .record e.fields), ("event", .text e.name)]).render = some e ∧
    Json.ofText? ofJson? (Json.array [.text e.name, .record e.fields]).render = some e := by
  have tag : Json.Plain (.text e.name) := Json.plain_text e.name
  have content : Json.Plain (.record e.fields) := e.plain_content
  refine ⟨?_, ?_, ?_⟩
  · rw [toJson_eq, Json.tagged, Json.ofText?_render _ (Json.plain_record (by simp [tag, content]))]
    exact ofJson?_eq (Json.tagged?_tagged e.name _)
  · rw [Json.ofText?_render _ (Json.plain_record (by simp [tag, content]))]
    exact ofJson?_eq (Json.tagged?_swapped e.name e.content_kept.1 e.content_kept.2)
  · rw [Json.ofText?_render _ (Json.plain_array (by simp [tag, content]))]
    exact ofJson?_eq (Json.tagged?_pair e.name _)

end RoomEvent

/-- **Wire formats round-trip in every accepted shape.** An event is read back from its JSON form,
from the same object with the content in front of the tag, and from the array of the two. A snapshot
and a slot's record are read back from their JSON form, from any object that has its members in any
order and any members of other names among them, and from the array of their fields. -/
theorem read_back :
    (∀ e : RoomEvent,
      e.toJson = .record [("event", .text e.name), ("data", .record e.fields)] ∧
      Json.ofText? RoomEvent.ofJson? e.toJson.render = some e ∧
      Json.ofText? RoomEvent.ofJson?
        (Json.record [("data", .record e.fields), ("event", .text e.name)]).render = some e ∧
      Json.ofText? RoomEvent.ofJson?
        (Json.array [.text e.name, .record e.fields]).render = some e) ∧
    (∀ s : DaySnapshot,
      Json.ofText? DaySnapshot.ofJson? s.toJson.render = some s ∧
      ∀ j, s.WrittenAs j → Json.ofText? DaySnapshot.ofJson? j.render = some s) ∧
    ∀ r : SlotRecord,
      Json.ofText? SlotRecord.ofJson? r.toJson.render = some r ∧
      ∀ j, Json.RecordOf r.fields j → Json.ofText? SlotRecord.ofJson? j.render = some r := by
  have snapshot (s : DaySnapshot) (j : Json) (shape : s.WrittenAs j) :
      Json.ofText? DaySnapshot.ofJson? j.render = some s := by
    rw [Json.ofText?_render _ shape.plain]
    exact DaySnapshot.ofJson?_eq shape
  have record (r : SlotRecord) (j : Json) (shape : Json.RecordOf r.fields j) :
      Json.ofText? SlotRecord.ofJson? j.render = some r := by
    rw [Json.ofText?_render _ (SlotRecord.plain_of_recordOf shape)]
    exact SlotRecord.ofJson?_eq shape
  refine ⟨fun e => ⟨e.toJson_eq, e.ofText?_shapes⟩, fun s => ⟨?_, snapshot s⟩, fun r => ⟨?_, record r⟩⟩
  · exact snapshot s _ s.writtenAs_toJson
  · exact record r _ (.record r.fields)

/-- The last slot on the first day of the calendar, its members reversed behind two that no reader
knows, and a snapshot as an array whose held slots are an array and an object. -/
theorem read_back_shuffled :
    Json.ofText? SlotRecord.ofJson?
        ("\x7b\"note\":\"\\ud800\",\"note\":[-1.5e+3,\x7b\x7d],\"booked\":true," ++
          "\"day\":\"-262143-01-01\",\"slot_id\":18446744073709551615\x7d") =
      some ⟨18446744073709551615, ⟨-262143, 1, 1, by decide⟩, true⟩ ∧
    Json.ofText? DaySnapshot.ofJson?
        "[\"+262142-12-31\",[5,3],[[7,120],\x7b\"ttl\":0,\"slot_id\":8\x7d]]" =
      some ⟨⟨262142, 12, 31, by decide⟩, [5, 3], [⟨7, 120⟩, ⟨8, 0⟩]⟩ := by
  have first : (⟨-262143, 1, 1, by decide⟩ : Day).toJson = .text "-262143-01-01" :=
    congrArg Json.text (by decide +kernel)
  have last : (⟨262142, 12, 31, by decide⟩ : Day).toJson = .text "+262142-12-31" :=
    congrArg Json.text (by decide +kernel)
  refine ⟨?_, ?_⟩
  · have text : (Json.record [("note", .string none), ("note", .array [.number "-1.5e+3", .object []]),
        ("booked", .bool true), ("day", .text "-262143-01-01"),
        ("slot_id", .word 18446744073709551615)]).render =
        "\x7b\"note\":\"\\ud800\",\"note\":[-1.5e+3,\x7b\x7d],\"booked\":true," ++
          "\"day\":\"-262143-01-01\",\"slot_id\":18446744073709551615\x7d" := by
      decide +kernel
    rw [← text]
    refine (read_back.2.2 _).2 _ ?_
    have numeral : Json.IsNumeral "-1.5e+3" := by decide +kernel
    rw [← first]
    refine .object [("note", .array [.number "-1.5e+3", .object []]), ("note", .string none)] ?_ ?_
    · simp [SlotRecord.fields, Json.Plain, Json.PlainItems, Json.PlainMembers, numeral]
    · exact List.reverse_perm (SlotRecord.fields ⟨_, ⟨-262143, 1, 1, by decide⟩, _⟩ ++ [_, _])
  · have text : (Json.array [.text "+262142-12-31", .array [.word 5, .word 3],
        .array [.array [.word 7, .word 120], .record [("ttl", .word 0), ("slot_id", .word 8)]]]).render =
        "[\"+262142-12-31\",[5,3],[[7,120],\x7b\"ttl\":0,\"slot_id\":8\x7d]]" := by
      decide +kernel
    rw [← text]
    refine (read_back.2.1 _).2 _ ⟨[.array [.word 7, .word 120],
      .record [("ttl", .word 0), ("slot_id", .word 8)]], .cons .array (.cons ?_ .nil), ?_⟩
    · exact .object [] (by simp) (List.Perm.swap _ _ _)
    · rw [← last]
      exact .array

end Holdfast
