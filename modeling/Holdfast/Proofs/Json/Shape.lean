import Holdfast.Json.Shape
import Holdfast.Proofs.Json.RoundTrip
import Mathlib.Data.List.Perm.Basic

/-!
# Records

Records are plain values if their fields are (`plain_record`), and a record whose fields have
different names gives them back (`fields?_record`), in whatever order its members stand and whatever
members of other names stand among them (`fields?_perm`). `RecordOf` collects the shapes in which a
record is taken.
-/

namespace Holdfast.Json

/-- A record of plain values is plain. -/
theorem plain_record {fields : List (String × Json)} (h : ∀ f ∈ fields, Plain f.2) :
    Plain (.record fields) := by
  rw [record, Plain]
  induction fields with
  | nil => exact trivial
  | cons f rest ih =>
    exact ⟨h f List.mem_cons_self, ih fun f mem => h f (List.mem_cons_of_mem _ mem)⟩

/-- An array of plain values is plain. -/
theorem plain_array {items : List Json} (h : ∀ j ∈ items, Plain j) : Plain (.array items) := by
  rw [Plain]
  induction items with
  | nil => exact trivial
  | cons j rest ih =>
    exact ⟨h j List.mem_cons_self, ih fun j mem => h j (List.mem_cons_of_mem _ mem)⟩

/-- A text is plain. -/
theorem plain_text (s : String) : Plain (.text s) := trivial

/-- A number is plain. -/
theorem plain_word (n : UInt64) : Plain (.word n) := isNumeral_digits n.toNat

/-- A text is read back. -/
theorem text?_text (s : String) : (text s).text? = some s := rfl

/-- A list that is written item by item is read back item by item. -/
theorem mapM_map_eq_some {α β : Type} {read : β → Option α} {write : α → β}
    (h : ∀ a, read (write a) = some a) (l : List α) : (l.map write).mapM read = some l := by
  have each : read ∘ write = fun a => pure (id a) := funext h
  rw [List.mapM_map, each, List.mapM_pure, List.map_id]
  rfl

/-- The members of a record are its fields. -/
theorem namedMembers?_record (fields : List (String × Json)) :
    namedMembers? (fields.map fun f => (some f.1, f.2)) = some fields := by
  refine mapM_map_eq_some ?_ fields
  exact fun f => rfl

/-- Fields of different names have each name at most once. -/
theorem length_filter_le_one {fields : List (String × Json)}
    (distinct : (fields.map (·.1)).Nodup) (name : String) :
    (fields.filter (·.1 = name)).length ≤ 1 := by
  have count := List.nodup_iff_count.1 distinct name
  rwa [List.count, List.countP_map, List.countP_eq_length_filter] at count

/-- What is said for a name is what the first member of that name says. -/
theorem lookup_eq_head? (name : String) (members : List (String × Json)) :
    members.lookup name = ((members.filter (·.1 = name)).head?).map (·.2) := by
  induction members with
  | nil => rfl
  | cons m rest ih =>
    obtain ⟨key, j⟩ := m
    by_cases same : key = name
    · subst same
      simp
    · have other : (name == key) = false := by simpa using fun h => same h.symm
      simp [List.lookup_cons, other, same, ih]

/-- What a field says is found under its name. -/
theorem lookup_of_mem {fields : List (String × Json)} (distinct : (fields.map (·.1)).Nodup)
    {f : String × Json} (mem : f ∈ fields) : fields.lookup f.1 = some f.2 := by
  induction fields with
  | nil => cases mem
  | cons g rest ih =>
    rw [List.map_cons, List.nodup_cons] at distinct
    rcases List.mem_cons.1 mem with rfl | mem
    · rw [List.lookup_cons_self]
    · have other : (f.1 == g.1) = false := by
        rw [beq_eq_false_iff_ne]
        intro same
        exact distinct.1 (same ▸ List.mem_map_of_mem mem)
      rw [List.lookup_cons, other]
      exact ih distinct.2 mem

/-- **Neither the order of the members nor members of other names matter**: a record whose fields
have different names gives its fields back. -/
theorem fields?_perm (names : List String) {fields members : List (String × Json)}
    (distinct : (fields.map (·.1)).Nodup) (extra : List (String × Json))
    (unknown : ∀ e ∈ extra, e.1 ∉ names)
    (perm : members.Perm (fields ++ extra)) :
    fields? names (.record members) = some (names.map fun name => fields.lookup name) := by
  -- of a name that is asked for, the members have what the fields have, and that is one at most
  have said : ∀ name ∈ names, members.filter (·.1 = name) = fields.filter (·.1 = name) := by
    intro name asked
    have none_extra : extra.filter (·.1 = name) = [] := by
      rw [List.filter_eq_nil_iff]
      intro e mem same
      exact unknown e mem (of_decide_eq_true same ▸ asked)
    have among := perm.filter (·.1 = name)
    rw [List.filter_append, none_extra, List.append_nil] at among
    have once := length_filter_le_one distinct name
    generalize fields.filter (·.1 = name) = own at among once
    match own with
    | [] => exact among.eq_nil
    | [f] => exact among.eq_singleton
  have once : (names.all fun name => (members.filter (·.1 = name)).length ≤ 1) = true := by
    rw [List.all_eq_true]
    intro name asked
    rw [said name asked]
    exact decide_eq_true (length_filter_le_one distinct name)
  have found : (names.map fun name => members.lookup name) =
      names.map fun name => fields.lookup name := by
    refine List.map_congr_left fun name asked => ?_
    rw [lookup_eq_head?, lookup_eq_head?, said name asked]
  change (namedMembers? (members.map fun f => (some f.1, f.2))).bind (fun named =>
    (if (names.all fun name => (named.filter (·.1 = name)).length ≤ 1) = true then some () else
      none).bind fun _ => some (names.map fun name => named.lookup name)) = _
  rw [namedMembers?_record, Option.bind_some, if_pos once, Option.bind_some, found]

/-- **A record whose fields have different names gives its fields back.** -/
theorem fields?_record (names : List String) {fields : List (String × Json)}
    (distinct : (fields.map (·.1)).Nodup) :
    fields? names (.record fields) = some (names.map fun name => fields.lookup name) :=
  fields?_perm names distinct [] (by simp) (by simp)

/-! ## Shapes of a record -/

/-- The value is a record with the given fields: an object with these members in any order among
members of other names, or the array of what the fields say, in order. -/
inductive RecordOf (fields : List (String × Json)) : Json → Prop
  | object {members : List (String × Json)} (extra : List (String × Json))
      (unknown : ∀ e ∈ extra, e.1 ∉ fields.map (·.1) ∧ Plain e.2)
      (perm : members.Perm (fields ++ extra)) : RecordOf fields (.record members)
  | array : RecordOf fields (.array (fields.map (·.2)))

namespace RecordOf

variable {fields : List (String × Json)} {j : Json}

/-- The record that is written has one of the shapes. -/
theorem record (fields : List (String × Json)) : RecordOf fields (.record fields) :=
  .object [] (by simp) (by simp)

/-- A record of plain values is plain in every shape. -/
theorem plain (h : RecordOf fields j) (each : ∀ f ∈ fields, Plain f.2) : Plain j := by
  cases h with
  | object extra unknown perm =>
    refine plain_record fun f mem => ?_
    rcases List.mem_append.1 (perm.mem_iff.1 mem) with mem | mem
    · exact each f mem
    · exact (unknown f mem).2
  | array =>
    refine plain_array fun j mem => ?_
    obtain ⟨f, own, rfl⟩ := List.mem_map.1 mem
    exact each f own

/-- **Every shape gives the same fields.** -/
theorem fields?_eq (h : RecordOf fields j) (distinct : (fields.map (·.1)).Nodup) :
    fields? (fields.map (·.1)) j = some (fields.map fun f => some f.2) := by
  cases h with
  | object extra unknown perm =>
    rw [fields?_perm _ distinct extra (fun e mem => (unknown e mem).1) perm, List.map_map]
    refine congrArg some (List.map_congr_left fun f mem => ?_)
    exact lookup_of_mem distinct mem
  | array =>
    have fits : (fields.map (·.2)).length ≤ (fields.map (·.1)).length := by simp
    have items : ((fields.map (·.1)).zipIdx.map fun p => (fields.map (·.2))[p.2]?) =
        fields.map fun f => some f.2 := by
      refine List.ext_getElem (by simp) fun i bound _ => ?_
      have bound : i < fields.length := by simpa using bound
      simp [bound]
    change (if (fields.map (·.2)).length ≤ (fields.map (·.1)).length then some () else none).bind
      (fun _ => some ((fields.map (·.1)).zipIdx.map fun p => (fields.map (·.2))[p.2]?)) = _
    rw [if_pos fits, Option.bind_some, items]

end RecordOf

/-- A list whose items are each read is read. -/
theorem mapM_eq_some {α : Type} {read : Json → Option α} {items : List Json} {l : List α}
    (each : List.Forall₂ (fun j a => read j = some a) items l) : items.mapM read = some l := by
  induction each with
  | nil => rfl
  | cons head _ ih => rw [List.mapM_cons, head, ih]; rfl

end Holdfast.Json
