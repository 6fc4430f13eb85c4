import Holdfast.SortedMap
import Mathlib.Data.Finset.Card

/-!
# Maps and lists

The keys of a map's entries differ, and putting the entries one after the other into an empty map
gives the map back. A map with a new key has one entry more, and with another value under a key that
is there it has as many as before. The keys as a set (`keys`) come and go with the entries.
-/

namespace Holdfast.SortedMap

variable {κ α : Type} [KeyOrder κ]

/-- The keys of a map differ. -/
theorem nodup_keys (m : SortedMap κ α) : (m.toList.map (·.1)).Nodup :=
  List.pairwise_map.2 (m.sorted.imp KeyOrder.ne_of_lt)

/-- Nothing is found under a key that is below all others. -/
theorem find_eq_none_of_lt {k : κ} {l : List (κ × α)} (below : ∀ e ∈ l, k < e.1) :
    find k l = none := by
  induction l with
  | nil => rfl
  | cons e rest ih =>
    obtain ⟨k', v⟩ := e
    have lt : k < k' := below (k', v) List.mem_cons_self
    rw [find_cons_ne (KeyOrder.ne_of_lt lt)]
    exact ih fun e mem => below e (List.mem_cons_of_mem _ mem)

/-- What is found after some entries with increasing keys were put in. -/
theorem get?_foldl_insert {l : List (κ × α)} (sorted : l.Pairwise (·.1 < ·.1)) (m : SortedMap κ α)
    (k : κ) : (l.foldl (fun m e => m.insert e.1 e.2) m).get? k = (find k l).or (m.get? k) := by
  induction l generalizing m with
  | nil => rfl
  | cons e rest ih =>
    obtain ⟨k', v⟩ := e
    obtain ⟨below, tail⟩ := List.pairwise_cons.1 sorted
    rw [List.foldl_cons, ih tail]
    by_cases same : k = k'
    · subst same
      rw [find_eq_none_of_lt below, find_cons_self, get?_insert_self]
      rfl
    · rw [find_cons_ne same, m.get?_insert_ne same]

/-- **The map of a map's entries is that map.** -/
theorem ofList_toList (m : SortedMap κ α) : ofList m.toList = m := by
  refine ext_get? fun k => ?_
  rw [ofList, toList, get?_foldl_insert m.sorted, get?_empty, Option.or_none]
  rfl

/-- What is found after a value was put under a key. -/
theorem get?_insert_eq (m : SortedMap κ α) (k k' : κ) (v : α) :
    (m.insert k v).get? k' = if k' = k then some v else m.get? k' := by
  split
  · rename_i same
    exact same ▸ m.get?_insert_self k v
  · rename_i other
    exact m.get?_insert_ne other v

/-- What is found after the entry under a key was taken away. -/
theorem get?_erase_eq (m : SortedMap κ α) (k k' : κ) :
    (m.erase k).get? k' = if k' = k then none else m.get? k' := by
  split
  · rename_i same
    exact same ▸ m.get?_erase_self k
  · rename_i other
    exact m.get?_erase_ne other

/-- A new entry that is taken away again. -/
theorem erase_insert {m : SortedMap κ α} {k : κ} {v : α} (new : m.get? k = none) :
    (m.insert k v).erase k = m := by
  refine ext_get? fun k' => ?_
  rw [get?_erase_eq, get?_insert_eq]
  by_cases same : k' = k <;> simp [same, new]

/-- Under a new key there is one entry more. -/
theorem size_insert {m : SortedMap κ α} {k : κ} (new : m.get? k = none) (v : α) :
    (m.insert k v).size = m.size + 1 := by
  have length_put : ∀ l : List (κ × α), find k l = none → (put k v l).length = l.length + 1 := by
    intro l new
    induction l with
    | nil => rfl
    | cons e rest ih =>
      obtain ⟨k', v'⟩ := e
      have other : k ≠ k' := by
        rintro rfl
        rw [find_cons_self] at new
        cases new
      rw [find_cons_ne other] at new
      rw [put, if_neg other]
      split
      · rfl
      · rw [List.length_cons, List.length_cons, ih new]
  exact length_put m.entries new

/-- Under a key that is there already, the number of entries stays. -/
theorem size_insert_of_get? {m : SortedMap κ α} {k : κ} {v : α} (there : m.get? k = some v)
    (w : α) : (m.insert k w).size = m.size := by
  have length_put : ∀ l : List (κ × α), l.Pairwise (·.1 < ·.1) → find k l = some v →
      (put k w l).length = l.length := by
    intro l sorted there
    induction l with
    | nil => cases there
    | cons e rest ih =>
      obtain ⟨k', v'⟩ := e
      obtain ⟨below, tail⟩ := List.pairwise_cons.1 sorted
      by_cases same : k = k'
      · subst same
        rw [put, if_neg (KeyOrder.irrefl k), if_pos rfl]
        rfl
      · rw [find_cons_ne same] at there
        have lt : k' < k := below _ ((mem_iff_find tail).2 there)
        rw [put, if_neg (KeyOrder.asymm lt), if_neg same, List.length_cons, ih tail there]
        rfl
  exact length_put m.entries m.sorted there

/-- **A map whose values are made of those of another map** has its entries in the same order. -/
theorem toList_of_get? {β : Type} {m : SortedMap κ α} {n : SortedMap κ β} {f : α → β}
    (same : ∀ k, n.get? k = (m.get? k).map f) : n.toList = m.toList.map (Prod.map id f) := by
  have find_map : ∀ (k : κ) (l : List (κ × α)), find k (l.map (Prod.map id f)) = (find k l).map f := by
    intro k l
    induction l with
    | nil => rfl
    | cons e rest ih =>
      obtain ⟨k', v⟩ := e
      by_cases eq : k = k'
      · subst eq
        rw [List.map_cons, find_cons_self]
        exact find_cons_self k (f v) _
      · rw [List.map_cons, find_cons_ne eq, ← ih]
        exact find_cons_ne eq (f v) _
  refine eq_of_find_eq n.sorted (List.pairwise_map.2 m.sorted) fun k => ?_
  rw [toList, find_map]
  exact same k

/-! ## Keys -/

/-- The keys under which there is something. -/
def keys (m : SortedMap κ α) : Finset κ := (m.toList.map (·.1)).toFinset

/-- There is something under the keys. -/
theorem mem_keys {m : SortedMap κ α} {k : κ} : k ∈ m.keys ↔ (m.get? k).isSome := by
  rw [keys, List.mem_toFinset, List.mem_map, Option.isSome_iff_exists]
  constructor
  · rintro ⟨⟨k', v⟩, mem, rfl⟩
    exact ⟨v, m.mem_toList_iff.1 mem⟩
  · rintro ⟨v, there⟩
    exact ⟨(k, v), m.mem_toList_iff.2 there, rfl⟩

/-- There are as many keys as entries. -/
theorem card_keys (m : SortedMap κ α) : m.keys.card = m.size := by
  rw [keys, List.toFinset_card_of_nodup m.nodup_keys, List.length_map]
  rfl

/-- One more key. -/
theorem keys_insert (m : SortedMap κ α) (k : κ) (v : α) :
    (m.insert k v).keys = Insert.insert k m.keys := by
  ext k'
  rw [mem_keys, get?_insert_eq, Finset.mem_insert, mem_keys]
  by_cases same : k' = k <;> simp [same]

/-- One key less. -/
theorem keys_erase (m : SortedMap κ α) (k : κ) : (m.erase k).keys = m.keys.erase k := by
  ext k'
  rw [mem_keys, get?_erase_eq, Finset.mem_erase, mem_keys]
  by_cases same : k' = k <;> simp [same]

/-- Nothing is left when the entries under all keys were taken away. -/
theorem foldl_erase_of_keys {m : SortedMap κ α} {l : List (κ × α)}
    (all : ∀ k ∈ m.keys, k ∈ l.map (·.1)) : l.foldl (fun m e => m.erase e.1) m = .empty := by
  induction l generalizing m with
  | nil =>
    refine ext_get? fun k => ?_
    cases there : m.get? k with
    | none => exact there
    | some v => cases all k (mem_keys.2 (there ▸ rfl))
  | cons e rest ih =>
    refine ih fun k mem => ?_
    rw [keys_erase, Finset.mem_erase] at mem
    exact (List.mem_cons.1 (all k mem.2)).resolve_left mem.1

/-- Nothing is left of a map when all its entries were taken away. -/
theorem foldl_erase_toList (m : SortedMap κ α) :
    m.toList.foldl (fun m e => m.erase e.1) m = .empty :=
  foldl_erase_of_keys fun _ mem => List.mem_toFinset.1 mem

end Holdfast.SortedMap
