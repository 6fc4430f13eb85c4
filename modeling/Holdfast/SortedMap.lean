/-!
# Maps in key order

A finite map as a list of entries with strictly increasing keys. The order is part of the type, so two
maps with the same look-ups are equal (`ext_get?`) and every traversal comes in key order.

* `get?_insert`, `get?_erase`, `get?_filter`: what a look-up gives after each change.
* `mem_toList_iff`: the entries are exactly what look-ups find.
-/

namespace Holdfast

/-- A strict total order whose comparisons can be decided. -/
class KeyOrder (κ : Type) extends LT κ where
  decLt : ∀ a b : κ, Decidable (a < b)
  decEq : DecidableEq κ
  irrefl : ∀ a : κ, ¬ a < a
  trans : ∀ {a b c : κ}, a < b → b < c → a < c
  trichotomy : ∀ a b : κ, a < b ∨ a = b ∨ b < a

namespace KeyOrder

variable {κ : Type} [KeyOrder κ]

instance (a b : κ) : Decidable (a < b) := KeyOrder.decLt a b

instance (priority := low) : DecidableEq κ := KeyOrder.decEq

theorem ne_of_lt {a b : κ} (h : a < b) : a ≠ b := fun e => irrefl b (e ▸ h)

theorem asymm {a b : κ} (h : a < b) : ¬ b < a := fun h' => irrefl a (trans h h')

theorem lt_of_not_lt_of_lt {a b c : κ} (h : ¬ b < a) (h' : b < c) : a < c := by
  rcases trichotomy a b with lt | rfl | gt
  · exact trans lt h'
  · exact h'
  · exact absurd gt h

theorem lt_of_lt_of_not_lt {a b c : κ} (h : a < b) (h' : ¬ c < b) : a < c := by
  rcases trichotomy b c with lt | rfl | gt
  · exact trans h lt
  · exact h
  · exact absurd gt h'

end KeyOrder

instance : KeyOrder String where
  decLt := inferInstance
  decEq := inferInstance
  irrefl := String.lt_irrefl
  trans := String.lt_trans
  trichotomy a b := by
    rcases Std.Total.total (r := (· ≤ · : String → String → Prop)) a b with h | h
    · by_cases e : a = b
      · exact .inr (.inl e)
      · exact .inl (Std.lt_of_le_of_ne h e)
    · by_cases e : a = b
      · exact .inr (.inl e)
      · exact .inr (.inr (Std.lt_of_le_of_ne h (Ne.symm e)))

instance : KeyOrder UInt64 where
  decLt := inferInstance
  decEq := inferInstance
  irrefl := UInt64.lt_irrefl
  trans := UInt64.lt_trans
  trichotomy a b := by
    simp only [UInt64.lt_iff_toNat_lt, ← UInt64.toNat_inj]
    omega

instance : KeyOrder Nat where
  decLt := inferInstance
  decEq := inferInstance
  irrefl := Nat.lt_irrefl
  trans := Nat.lt_trans
  trichotomy := Nat.lt_trichotomy

/-- A finite map whose entries come in key order. -/
structure SortedMap (κ α : Type) [KeyOrder κ] where
  entries : List (κ × α)
  sorted : entries.Pairwise (·.1 < ·.1)

namespace SortedMap

variable {κ α : Type} [KeyOrder κ]

/-! ## On entry lists -/

/-- The value under a key. -/
def find (k : κ) : List (κ × α) → Option α
  | [] => none
  | (k', v) :: rest => if k = k' then some v else find k rest

/-- The entries with a value put under a key. -/
def put (k : κ) (v : α) : List (κ × α) → List (κ × α)
  | [] => [(k, v)]
  | (k', v') :: rest =>
    if k < k' then (k, v) :: (k', v') :: rest
    else if k = k' then (k, v) :: rest
    else (k', v') :: put k v rest

@[simp] theorem find_nil (k : κ) : find k ([] : List (κ × α)) = none := rfl

@[simp] theorem find_cons_self (k : κ) (v : α) (rest : List (κ × α)) :
    find k ((k, v) :: rest) = some v := if_pos rfl

theorem find_cons_ne {k k' : κ} (h : k ≠ k') (v : α) (rest : List (κ × α)) :
    find k ((k', v) :: rest) = find k rest := if_neg h

theorem mem_put {k : κ} {v : α} {e : κ × α} {l : List (κ × α)} (h : e ∈ put k v l) :
    e = (k, v) ∨ e ∈ l := by
  induction l with
  | nil => simpa [put] using h
  | cons head rest ih =>
    obtain ⟨k', v'⟩ := head
    rw [put] at h
    split at h
    · simpa using h
    · split at h
      · rcases List.mem_cons.1 h with h | h
        · exact .inl h
        · exact .inr (List.mem_cons_of_mem _ h)
      · rcases List.mem_cons.1 h with h | h
        · exact .inr (h ▸ List.mem_cons_self)
        · exact (ih h).imp_right (List.mem_cons_of_mem _)

theorem sorted_put (k : κ) (v : α) {l : List (κ × α)} (h : l.Pairwise (·.1 < ·.1)) :
    (put k v l).Pairwise (·.1 < ·.1) := by
  induction l with
  | nil => simp [put]
  | cons head rest ih =>
    obtain ⟨k', v'⟩ := head
    obtain ⟨below, tail⟩ := List.pairwise_cons.1 h
    rw [put]
    split
    · rename_i lt
      refine List.pairwise_cons.2 ⟨fun e he => ?_, h⟩
      rcases List.mem_cons.1 he with rfl | he
      · exact lt
      · exact KeyOrder.trans lt (below e he)
    · rename_i nlt
      split
      · rename_i eq
        subst eq
        exact List.pairwise_cons.2 ⟨below, tail⟩
      · rename_i ne
        refine List.pairwise_cons.2 ⟨fun e he => ?_, ih tail⟩
        rcases mem_put he with rfl | he
        · rcases KeyOrder.trichotomy k k' with lt | eq | gt
          · exact absurd lt nlt
          · exact absurd eq ne
          · exact gt
        · exact below e he

theorem find_put (k k' : κ) (v : α) (l : List (κ × α)) :
    (k' = k → find k' (put k v l) = some v) ∧ (k' ≠ k → find k' (put k v l) = find k' l) := by
  induction l with
  | nil =>
    refine ⟨?_, fun ne => ?_⟩
    · rintro rfl
      simp [put]
    · rw [put, find_cons_ne ne]
  | cons head rest ih =>
    obtain ⟨k₁, v₁⟩ := head
    rw [put]
    split
    · refine ⟨?_, fun ne => find_cons_ne ne v _⟩
      rintro rfl
      simp
    · split
      · rename_i eq
        subst eq
        refine ⟨?_, fun ne => by rw [find_cons_ne ne, find_cons_ne ne]⟩
        rintro rfl
        simp
      · rename_i ne₁
        refine ⟨?_, fun ne => ?_⟩
        · rintro rfl
          rw [find_cons_ne ne₁]
          exact ih.1 rfl
        · by_cases eq : k' = k₁
          · subst eq
            simp
          · rw [find_cons_ne eq, find_cons_ne eq]
            exact ih.2 ne

theorem mem_iff_find {l : List (κ × α)} (h : l.Pairwise (·.1 < ·.1)) {k : κ} {v : α} :
    (k, v) ∈ l ↔ find k l = some v := by
  induction l with
  | nil => simp
  | cons head rest ih =>
    obtain ⟨k', v'⟩ := head
    obtain ⟨below, tail⟩ := List.pairwise_cons.1 h
    by_cases eq : k = k'
    · subst eq
      rw [find_cons_self, List.mem_cons]
      refine ⟨fun h => ?_, fun h => .inl (by simpa using h.symm)⟩
      rcases h with h | h
      · simp_all
      · exact absurd (below _ h) (KeyOrder.irrefl k)
    · rw [find_cons_ne eq, List.mem_cons, ← ih tail]
      simp [eq]

theorem find_filter {l : List (κ × α)} (h : l.Pairwise (·.1 < ·.1)) (p : κ × α → Bool) (k : κ) :
    find k (l.filter p) = (find k l).filter (fun v => p (k, v)) := by
  have h' := h.filter p
  cases hf : find k l with
  | none =>
    cases hg : find k (l.filter p) with
    | none => rfl
    | some v =>
      have := (List.mem_filter.1 ((mem_iff_find h').2 hg)).1
      rw [mem_iff_find h, hf] at this
      simp at this
  | some v =>
    have hm := (mem_iff_find h).2 hf
    cases hp : p (k, v) with
    | true =>
      rw [(mem_iff_find h').1 (List.mem_filter.2 ⟨hm, hp⟩), Option.filter, if_pos hp]
    | false =>
      cases hg : find k (l.filter p) with
      | none => simp [Option.filter, hp]
      | some w =>
        obtain ⟨hw, hpw⟩ := List.mem_filter.1 ((mem_iff_find h').2 hg)
        rw [mem_iff_find h, hf] at hw
        simp_all

theorem eq_of_find_eq {l₁ l₂ : List (κ × α)} (h₁ : l₁.Pairwise (·.1 < ·.1))
    (h₂ : l₂.Pairwise (·.1 < ·.1)) (h : ∀ k, find k l₁ = find k l₂) : l₁ = l₂ := by
  induction l₁ generalizing l₂ with
  | nil =>
    cases l₂ with
    | nil => rfl
    | cons head _ =>
      have := h head.1
      rw [find_nil, find_cons_self] at this
      simp at this
  | cons head₁ rest₁ ih =>
    obtain ⟨k₁, v₁⟩ := head₁
    obtain ⟨below₁, tail₁⟩ := List.pairwise_cons.1 h₁
    cases l₂ with
    | nil => simpa using h k₁
    | cons head₂ rest₂ =>
      obtain ⟨k₂, v₂⟩ := head₂
      obtain ⟨below₂, tail₂⟩ := List.pairwise_cons.1 h₂
      have mem₁ : (k₁, v₁) ∈ (k₂, v₂) :: rest₂ := (mem_iff_find h₂).2 (by rw [← h]; simp)
      have mem₂ : (k₂, v₂) ∈ (k₁, v₁) :: rest₁ := (mem_iff_find h₁).2 (by rw [h]; simp)
      have head : (k₁, v₁) = (k₂, v₂) := by
        rcases List.mem_cons.1 mem₁ with e | m₁
        · exact e
        · rcases List.mem_cons.1 mem₂ with e | m₂
          · exact e.symm
          · exact absurd (below₂ _ m₁) (KeyOrder.asymm (below₁ _ m₂))
      obtain ⟨rfl, rfl⟩ := Prod.mk.inj head
      refine congrArg _ (ih tail₁ tail₂ fun k => ?_)
      by_cases e : k = k₁
      · subst e
        have none₁ : find k rest₁ = none := by
          cases hf : find k rest₁ with
          | none => rfl
          | some v => exact absurd (below₁ _ ((mem_iff_find tail₁).2 hf)) (KeyOrder.irrefl k)
        have none₂ : find k rest₂ = none := by
          cases hf : find k rest₂ with
          | none => rfl
          | some v => exact absurd (below₂ _ ((mem_iff_find tail₂).2 hf)) (KeyOrder.irrefl k)
        rw [none₁, none₂]
      · have := h k
        rwa [find_cons_ne e, find_cons_ne e] at this

/-! ## On maps -/

/-- The map without entries. -/
def empty : SortedMap κ α := ⟨[], List.Pairwise.nil⟩

instance : Inhabited (SortedMap κ α) := ⟨empty⟩

/-- The entries in key order. -/
def toList (m : SortedMap κ α) : List (κ × α) := m.entries

/-- The value under a key. -/
def get? (m : SortedMap κ α) (k : κ) : Option α := find k m.entries

/-- The map with a value put under a key, in place of the one there. -/
def insert (m : SortedMap κ α) (k : κ) (v : α) : SortedMap κ α :=
  ⟨put k v m.entries, sorted_put k v m.sorted⟩

/-- The entries that pass a test. -/
def filter (m : SortedMap κ α) (p : κ × α → Bool) : SortedMap κ α :=
  ⟨m.entries.filter p, m.sorted.filter p⟩

/-- The map without the entry under a key. -/
def erase (m : SortedMap κ α) (k : κ) : SortedMap κ α := m.filter (·.1 ≠ k)

/-- The map of a list of entries; of two under one key, the later stays. -/
def ofList (l : List (κ × α)) : SortedMap κ α := l.foldl (fun m e => m.insert e.1 e.2) empty

/-- The number of entries. -/
def size (m : SortedMap κ α) : Nat := m.entries.length

theorem get?_insert (m : SortedMap κ α) (k k' : κ) (v : α) :
    (k' = k → (m.insert k v).get? k' = some v) ∧
      (k' ≠ k → (m.insert k v).get? k' = m.get? k') := find_put k k' v m.entries

@[simp] theorem get?_insert_self (m : SortedMap κ α) (k : κ) (v : α) :
    (m.insert k v).get? k = some v := (m.get?_insert k k v).1 rfl

theorem get?_insert_ne (m : SortedMap κ α) {k k' : κ} (h : k' ≠ k) (v : α) :
    (m.insert k v).get? k' = m.get? k' := (m.get?_insert k k' v).2 h

theorem get?_filter (m : SortedMap κ α) (p : κ × α → Bool) (k : κ) :
    (m.filter p).get? k = (m.get? k).filter (fun v => p (k, v)) := find_filter m.sorted p k

@[simp] theorem get?_erase_self (m : SortedMap κ α) (k : κ) : (m.erase k).get? k = none := by
  rw [erase, get?_filter]
  cases m.get? k <;> simp [Option.filter]

theorem get?_erase_ne (m : SortedMap κ α) {k k' : κ} (h : k' ≠ k) :
    (m.erase k).get? k' = m.get? k' := by
  rw [erase, get?_filter]
  cases m.get? k' <;> simp [Option.filter, h]

@[simp] theorem get?_empty (k : κ) : (empty : SortedMap κ α).get? k = none := rfl

theorem mem_toList_iff (m : SortedMap κ α) {k : κ} {v : α} :
    (k, v) ∈ m.toList ↔ m.get? k = some v := mem_iff_find m.sorted

@[ext] theorem ext_get? {m₁ m₂ : SortedMap κ α} (h : ∀ k, m₁.get? k = m₂.get? k) : m₁ = m₂ := by
  obtain ⟨l₁, h₁⟩ := m₁
  obtain ⟨l₂, h₂⟩ := m₂
  obtain rfl := eq_of_find_eq h₁ h₂ h
  rfl

end SortedMap
end Holdfast
