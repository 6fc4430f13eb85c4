import Holdfast.Catalogue

/-!
# The lists of the days

A day's list has the known slots of that day (`mem_onDay`), in the order of their numbers
(`sorted_onDay`). It is what anyone gets who walks through the records in whatever order, keeps those of
the day and sorts them by their numbers (`mergeSort_walk`).
-/

namespace Holdfast.Catalogue

/-- The records of all slots. -/
def records (c : Catalogue) : List SlotRecord := c.slots.toList.map (·.2)

variable {c : Catalogue} {day : Day} {r : SlotRecord} {slot : SlotId}

/-- There is one of every known slot. -/
theorem mem_records : r ∈ c.records ↔ c.get? r.id = some r := by
  simp only [records, List.mem_map, Prod.exists, SortedMap.mem_toList_iff, exists_eq_right]
  constructor
  · rintro ⟨slot, known⟩
    obtain rfl := c.keyed slot r known
    exact known
  · exact fun known => ⟨r.id, known⟩

/-- They are in the order of their numbers. -/
theorem sorted_records (c : Catalogue) : c.records.Pairwise (·.id < ·.id) := by
  rw [records, List.pairwise_map]
  refine c.slots.sorted.imp_of_mem fun {a b} mem mem' lt => ?_
  rw [c.keyed a.1 a.2 (c.slots.mem_toList_iff.1 mem), c.keyed b.1 b.2 (c.slots.mem_toList_iff.1 mem')]
  exact lt

/-- The list of a day has those of the day. -/
theorem onDay_eq_filter (c : Catalogue) (day : Day) : c.onDay day = c.records.filter (·.day = day) := by
  rw [records, List.filter_map]
  rfl

/-- The slots of a day are those that are known with that day. -/
theorem mem_onDay : r ∈ c.onDay day ↔ c.get? r.id = some r ∧ r.day = day := by
  rw [onDay_eq_filter, List.mem_filter, mem_records, decide_eq_true_eq]

/-- The slots of a day come in the order of their numbers. -/
theorem sorted_onDay (c : Catalogue) (day : Day) :
    ((c.onDay day).map (·.id)).Pairwise (· < ·) := by
  rw [onDay_eq_filter, List.pairwise_map]
  exact c.sorted_records.filter _

/-- A slot that is known is in the list of its day, and in no other. -/
theorem mem_ids_onDay_iff (known : c.get? slot = some r) :
    slot ∈ (c.onDay day).map (·.id) ↔ day = r.day := by
  rw [List.mem_map]
  constructor
  · rintro ⟨r', mem, rfl⟩
    obtain ⟨known', rfl⟩ := mem_onDay.1 mem
    rw [known] at known'
    rw [Option.some.inj known']
  · rintro rfl
    obtain rfl := c.keyed slot r known
    exact ⟨r, mem_onDay.2 ⟨known, rfl⟩, rfl⟩

/-- **The order in which the records are walked through does not matter** for the list of a day. -/
theorem mergeSort_walk {walk : List SlotRecord} (all : walk.Perm c.records) (day : Day) :
    (walk.filter (·.day = day)).mergeSort (fun a b => a.id ≤ b.id) = c.onDay day := by
  have perm := (List.mergeSort_perm (walk.filter (·.day = day)) (fun a b => a.id ≤ b.id)).trans
    (all.filter _)
  rw [← onDay_eq_filter] at perm
  refine List.Perm.eq_of_pairwise ?_ (List.pairwise_mergeSort ?_ ?_ _) ?_ perm
  · -- two records of one number are the record of one slot
    intro a b mem mem' le ge
    have known := (mem_onDay.1 (perm.mem_iff.1 mem)).1
    have known' := (mem_onDay.1 mem').1
    rw [UInt64.le_antisymm (of_decide_eq_true le) (of_decide_eq_true ge), known'] at known
    exact (Option.some.inj known).symm
  · intro a b c le le'
    exact decide_eq_true (UInt64.le_trans (of_decide_eq_true le) (of_decide_eq_true le'))
  · intro a b
    rw [Bool.or_eq_true, decide_eq_true_eq, decide_eq_true_eq]
    exact UInt64.le_total a.id b.id
  · exact (List.pairwise_map.1 (c.sorted_onDay day)).imp fun lt => decide_eq_true (UInt64.le_of_lt lt)

end Holdfast.Catalogue
