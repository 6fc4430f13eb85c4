import Holdfast.Store.Transaction

/-!
# Watches of one transaction

A merge keeps what the watch has (`mem_merge`), adds nothing that neither of the two saw
(`mem_of_mem_merge`), and leaves out no key that one of them saw (`exists_mem_merge`).

Of each key the first look counts (`seen?_merge`), and keys that are new come behind the others, in the
order of the first looks at them (`keys_merge`). It makes no difference which of several watches are
merged first (`merge_assoc`), and merging them one after the other is merging all looks at once
(`foldl_merge`).
-/

namespace Holdfast.Watch

variable {w w' later : Watch} {seen : String × Option Nat} {key : String} {version : Option Nat}

/-! ## The looks at a key -/

/-- The keys that were looked at, in the order of the looks. -/
def keys (w : Watch) : List String := w.versions.map (·.1)

/-- What the first look at a key saw, if there was one. -/
def seen? (w : Watch) (key : String) : Option (Option Nat) := w.versions.lookup key

@[simp] theorem keys_cons (look : String × Option Nat) (rest : List (String × Option Nat)) :
    keys ⟨look :: rest⟩ = look.1 :: keys ⟨rest⟩ := rfl

/-- What the first look at a key saw is in the watch. -/
theorem mem_of_seen? (h : w.seen? key = some version) : (key, version) ∈ w.versions := by
  obtain ⟨before, after, split, -⟩ := List.lookup_eq_some_iff.1 h
  simp [split]

/-- Something was seen of a key that was looked at. -/
theorem exists_seen? (h : key ∈ w.keys) : ∃ version, w.seen? key = some version := by
  obtain ⟨look, mem, rfl⟩ := List.mem_map.1 h
  apply Option.isSome_iff_exists.1
  exact List.lookup_isSome_iff.2 ⟨look, mem, beq_self_eq_true _⟩

/-- Where no key stands twice, each look is the first one at its key. -/
theorem seen?_of_mem (once : w.keys.Nodup) (mem : (key, version) ∈ w.versions) :
    w.seen? key = some version := by
  obtain ⟨before, after, split⟩ := List.append_of_mem mem
  refine List.lookup_eq_some_iff.2 ⟨before, after, split, ?_⟩
  intro early there
  rw [bne_iff_ne]
  rintro rfl
  rw [keys, split, List.map_append, List.nodup_append] at once
  exact once.2.2 early.1 (List.mem_map_of_mem there) early.1 List.mem_cons_self rfl

/-- Where no key stands twice, the keys and what was seen of them make up the watch. -/
theorem versions_eq (once : w.keys.Nodup) :
    w.versions = w.keys.map fun key => (key, (w.seen? key).getD none) := by
  have same : ∀ look ∈ w.versions, look = (look.1, (w.seen? look.1).getD none) := by
    intro look mem
    rw [seen?_of_mem once mem, Option.getD_some]
  calc
    w.versions = w.versions.map id := (List.map_id _).symm
    _ = w.versions.map fun look => (look.1, (w.seen? look.1).getD none) := List.map_congr_left same
    _ = w.keys.map fun key => (key, (w.seen? key).getD none) := by rw [keys, List.map_map]; rfl

/-- Two watches in which no key stands twice are the same if they saw the same of the same keys. -/
theorem eq_of_seen? (once : w.keys.Nodup) (once' : w'.keys.Nodup) (looked : w.keys = w'.keys)
    (saw : ∀ key, w.seen? key = w'.seen? key) : w = w' := by
  have same : w.versions = w'.versions := by
    rw [versions_eq once, versions_eq once', looked]
    simp only [saw]
  obtain ⟨versions⟩ := w
  exact congrArg Watch.mk same

/-! ## One more look -/

/-- A second look at a key adds nothing. -/
theorem add_of_mem_keys (h : seen.1 ∈ w.keys) : w.add seen = w := by
  unfold add
  apply if_pos
  obtain ⟨first, mem, same⟩ := List.mem_map.1 h
  exact List.any_eq_true.2 ⟨first, mem, decide_eq_true same⟩

/-- The first look at a key comes behind the looks at other keys. -/
theorem add_of_not_mem_keys (h : seen.1 ∉ w.keys) : w.add seen = ⟨w.versions ++ [seen]⟩ := by
  unfold add
  apply if_neg
  intro there
  obtain ⟨first, mem, same⟩ := List.any_eq_true.1 there
  exact h (List.mem_map.2 ⟨first, mem, of_decide_eq_true same⟩)

theorem keys_add (w : Watch) (seen : String × Option Nat) :
    (w.add seen).keys = if seen.1 ∈ w.keys then w.keys else w.keys ++ [seen.1] := by
  split
  · rw [add_of_mem_keys ‹_›]
  · rw [add_of_not_mem_keys ‹_›]
    simp [keys]

theorem seen?_add (w : Watch) (seen : String × Option Nat) (key : String) :
    (w.add seen).seen? key = (w.seen? key).or (seen? ⟨[seen]⟩ key) := by
  by_cases known : seen.1 ∈ w.keys
  · rw [add_of_mem_keys known]
    by_cases same : key = seen.1
    · subst same
      obtain ⟨version, first⟩ := exists_seen? known
      simp [first]
    · have unseen : seen? ⟨[seen]⟩ key = none := by
        simp [seen?, same]
      rw [unseen, Option.or_none]
  · rw [add_of_not_mem_keys known]
    exact List.lookup_append

/-- What a watch has stays in it. -/
theorem mem_add (h : seen ∈ w.versions) (more : String × Option Nat) :
    seen ∈ (w.add more).versions := by
  unfold add
  split
  · exact h
  · exact List.mem_append_left _ h

/-- One more key adds at most what was seen of it. -/
theorem mem_of_mem_add {more : String × Option Nat} (h : seen ∈ (w.add more).versions) :
    seen ∈ w.versions ∨ seen = more := by
  unfold add at h
  split at h
  · exact .inl h
  · exact (List.mem_append.1 h).imp_right List.mem_singleton.1

/-! ## The first look counts -/

/-- A merge takes the later looks one by one. -/
theorem merge_cons (w : Watch) (seen : String × Option Nat) (rest : List (String × Option Nat)) :
    w.merge ⟨seen :: rest⟩ = (w.add seen).merge ⟨rest⟩ := rfl

/-- **The first look counts**: what was seen later of a key matters only if nothing was seen before. -/
theorem seen?_merge (w later : Watch) (key : String) :
    (w.merge later).seen? key = (w.seen? key).or (later.seen? key) := by
  obtain ⟨versions⟩ := later
  induction versions generalizing w with
  | nil => simp [merge, seen?]
  | cons first rest ih =>
    have split : seen? ⟨[first] ++ rest⟩ key = (seen? ⟨[first]⟩ key).or (seen? ⟨rest⟩ key) :=
      List.lookup_append
    rw [merge_cons, ih, seen?_add, Option.or_assoc, ← split, List.singleton_append]

/-- **Keys that are new come behind the others**, in the order of the first looks at them. -/
theorem keys_merge (w later : Watch) :
    (w.merge later).keys = w.keys ++ (later.keys.removeAll w.keys).eraseDups := by
  obtain ⟨versions⟩ := later
  induction versions generalizing w with
  | nil => simp [merge, keys, List.removeAll]
  | cons first rest ih =>
    rw [merge_cons, ih, keys_add, keys_cons, List.cons_removeAll]
    by_cases known : first.1 ∈ w.keys
    · simp [known]
    · have new : (keys ⟨rest⟩).removeAll (w.keys ++ [first.1]) =
          ((keys ⟨rest⟩).removeAll w.keys).filter fun key => !key == first.1 := by
        unfold List.removeAll
        rw [List.filter_filter]
        apply List.filter_congr
        intro key _
        by_cases same : key = first.1 <;> simp [same]
      simp [known, new, List.eraseDups_cons]

theorem mem_keys_merge : key ∈ (w.merge later).keys ↔ key ∈ w.keys ∨ key ∈ later.keys := by
  rw [keys_merge, List.mem_append, List.mem_eraseDups]
  by_cases there : key ∈ w.keys <;> simp [List.removeAll, there]

/-- No key comes to stand twice by a merge. -/
theorem nodup_keys_merge_iff (w later : Watch) : (w.merge later).keys.Nodup ↔ w.keys.Nodup := by
  obtain ⟨versions⟩ := later
  induction versions generalizing w with
  | nil => rfl
  | cons first rest ih =>
    rw [merge_cons, ih, keys_add]
    split
    · rfl
    · rename_i new
      have apart : ∀ key ∈ w.keys, key ≠ first.1 := fun key mem same => new (same ▸ mem)
      simpa [List.nodup_append] using fun _ => apart

/-- What a watch has stays in it when another one is merged into it. -/
theorem mem_merge (h : seen ∈ w.versions) (later : Watch) : seen ∈ (w.merge later).versions := by
  obtain ⟨versions⟩ := later
  unfold merge
  induction versions generalizing w with
  | nil => exact h
  | cons more rest ih => exact ih (mem_add h more)

/-- What a merge has, one of the two had. -/
theorem mem_of_mem_merge (h : seen ∈ (w.merge later).versions) :
    seen ∈ w.versions ∨ seen ∈ later.versions := by
  obtain ⟨versions⟩ := later
  unfold merge at h
  induction versions generalizing w with
  | nil => exact .inl h
  | cons more rest ih =>
    rcases ih h with h | h
    · rcases mem_of_mem_add h with h | rfl
      · exact .inl h
      · exact .inr List.mem_cons_self
    · exact .inr (List.mem_cons_of_mem _ h)

/-- A key that was looked at later is in the merge. -/
theorem exists_mem_merge (w : Watch) {later : Watch} {key : String} {version : Option Nat}
    (h : (key, version) ∈ later.versions) :
    ∃ version', (key, version') ∈ (w.merge later).versions := by
  have known : key ∈ (w.merge later).keys := mem_keys_merge.2 (.inr (List.mem_map_of_mem h))
  obtain ⟨version', first⟩ := exists_seen? known
  exact ⟨version', mem_of_seen? first⟩

/-! ## Several merges -/

/-- A look that is added before a merge may as well be added after it. -/
theorem merge_add (w later : Watch) (seen : String × Option Nat) :
    w.merge (later.add seen) = (w.merge later).add seen := by
  by_cases known : seen.1 ∈ later.keys
  · rw [add_of_mem_keys known, add_of_mem_keys (mem_keys_merge.2 (.inr known))]
  · rw [add_of_not_mem_keys known]
    exact List.foldl_append

/-- It makes no difference which of three watches are merged first. -/
theorem merge_assoc (first second third : Watch) :
    (first.merge second).merge third = first.merge (second.merge third) := by
  obtain ⟨versions⟩ := third
  induction versions generalizing second with
  | nil => rfl
  | cons look rest ih => rw [merge_cons, merge_cons, ← merge_add, ih]

/-- If no key stands twice in two watches together, a merge puts one behind the other. -/
theorem merge_of_nodup (once : (w.keys ++ later.keys).Nodup) :
    w.merge later = ⟨w.versions ++ later.versions⟩ := by
  obtain ⟨versions⟩ := later
  induction versions generalizing w with
  | nil => simp [merge]
  | cons first rest ih =>
    have new : first.1 ∉ w.keys := by
      intro known
      rw [List.nodup_append] at once
      exact once.2.2 first.1 known first.1 List.mem_cons_self rfl
    -- what is put behind the one watch is taken from the front of the other
    have once' : ((w.add first).keys ++ keys ⟨rest⟩).Nodup := by
      rwa [keys_add, if_neg new, List.append_assoc]
    rw [merge_cons, ih once', add_of_not_mem_keys new]
    simp

/-- A watch that is merged into the empty one stays as it is, unless it has a key twice. -/
theorem empty_merge_iff (w : Watch) : merge {} w = w ↔ w.keys.Nodup := by
  constructor
  · intro same
    rw [← same, nodup_keys_merge_iff]
    exact List.nodup_nil
  · intro once
    exact merge_of_nodup once

/-- Merging watches one after the other is merging all their looks at once. -/
theorem foldl_merge (w : Watch) (watches : List Watch) :
    watches.foldl merge w = w.merge ⟨watches.flatMap (·.versions)⟩ :=
  List.foldl_flatMap.symm

/-- Of all looks at a key the first is that of the first watch that looked at it. -/
theorem seen?_flatMap (watches : List Watch) (key : String) :
    seen? ⟨watches.flatMap (·.versions)⟩ key = watches.findSome? (·.seen? key) := by
  induction watches with
  | nil => rfl
  | cons w rest ih =>
    have split : seen? ⟨(w :: rest).flatMap (·.versions)⟩ key =
        (w.seen? key).or (seen? ⟨rest.flatMap (·.versions)⟩ key) := List.lookup_append
    rw [split, ih, List.findSome?_cons]
    cases w.seen? key <;> rfl

end Holdfast.Watch
