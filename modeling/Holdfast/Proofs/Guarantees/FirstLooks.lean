import Holdfast.Proofs.Store.Versions
import Holdfast.Proofs.Store.Watches

/-!
# The first look at a key counts

A transaction may look at its keys in several steps and merge what it saw. What it ends up with is each
key once, as the first look found it (`FirstLooks`), so it is committed exactly if nothing of what it
looked at has changed since the first look at it. If a later look took the place of an earlier one, a
change between the two would go unnoticed.
-/

namespace Holdfast.Watch

/-- What the first of the watches that looked at a key saw of it. -/
def firstSeen? (watches : List Watch) (key : String) : Option (Option Nat) :=
  watches.findSome? (·.seen? key)

/-- **The first looks of some watches.** -/
structure FirstLooks (watches : List Watch) (merged : Watch) : Prop where
  /-- No key stands twice. -/
  once : merged.keys.Nodup
  /-- The keys are those that were looked at, in the order of the first looks at them. -/
  order : merged.keys = (watches.flatMap keys).eraseDups
  /-- Of each key there stands what the first watch that looked at it saw. -/
  first : ∀ key, merged.seen? key = firstSeen? watches key
  /-- A transaction is committed exactly if each key has the version that was first seen of it. -/
  committed_iff : ∀ now (s : Store) writes, (s.exec now merged writes).1 = .committed ↔
    ∀ key ∈ watches.flatMap keys, firstSeen? watches key = some (s.version? now key)

/-- **The laws of merging.** -/
structure MergeLaws : Prop where
  assoc : ∀ first second third : Watch,
    (first.merge second).merge third = first.merge (second.merge third)
  merge_empty : ∀ w : Watch, w.merge {} = w
  /-- The empty watch is neutral on the left for the watches that have no key twice. -/
  empty_merge : ∀ w : Watch, merge {} w = w ↔ w.keys.Nodup
  /-- These watches are closed under merging. -/
  nodup : ∀ w later : Watch, (w.merge later).keys.Nodup ↔ w.keys.Nodup

variable {w : Watch}

theorem keys_foldl_merge (watches : List Watch) :
    (watches.foldl merge {}).keys = (watches.flatMap keys).eraseDups := by
  have looks : keys ⟨watches.flatMap (·.versions)⟩ = watches.flatMap keys := List.map_flatMap
  have empty : keys {} = [] := rfl
  rw [foldl_merge, keys_merge, looks, empty, List.removeAll_nil, List.nil_append]

theorem seen?_foldl_merge (watches : List Watch) (key : String) :
    (watches.foldl merge {}).seen? key = firstSeen? watches key := by
  have empty : seen? {} key = none := rfl
  rw [foldl_merge, seen?_merge, seen?_flatMap, empty, Option.none_or, firstSeen?]

theorem nodup_keys_foldl_merge (watches : List Watch) : (watches.foldl merge {}).keys.Nodup := by
  rw [foldl_merge, nodup_keys_merge_iff]
  exact List.nodup_nil

/-- A watch in which no key stands twice agrees with a store that has of each key what was seen. -/
theorem agrees_iff (once : w.keys.Nodup) (now : Nat) (s : Store) :
    s.agrees now w = true ↔ ∀ key ∈ w.keys, w.seen? key = some (s.version? now key) := by
  constructor
  · intro agrees key mem
    obtain ⟨version, seen⟩ := exists_seen? mem
    rw [seen, Store.version?_of_agrees (mem_of_seen? seen) agrees]
  · intro same
    apply List.all_eq_true.2
    intro ⟨key, version⟩ mem
    have seen := same key (List.mem_map_of_mem mem)
    rw [seen?_of_mem once mem] at seen
    exact decide_eq_true (Option.some.inj seen).symm

/-- **Merging keeps the first looks**, and nothing else does; and it makes no difference in which groups
watches are merged. -/
theorem firstLooks_iff : MergeLaws ∧
    ∀ watches merged, FirstLooks watches merged ↔ merged = watches.foldl merge {} := by
  refine ⟨⟨merge_assoc, fun _ => rfl, empty_merge_iff, nodup_keys_merge_iff⟩, ?_⟩
  intro watches merged
  have once := nodup_keys_foldl_merge watches
  have order := keys_foldl_merge watches
  have first := seen?_foldl_merge watches
  constructor
  · intro h
    apply eq_of_seen? h.once once
    · rw [h.order, order]
    · intro key
      rw [h.first, first]
  · rintro rfl
    refine ⟨once, order, first, ?_⟩
    intro now s writes
    rw [Store.exec_committed_iff, agrees_iff once, order]
    simp only [List.mem_eraseDups, first]

/-- A key is looked at, written, and looked at again: what was seen first is no longer so. -/
example : let before := Store.put 0 {} "hold:1" "a" 9
    let after := before.put 0 "hold:1" "b" 9
    let looks := [before.watch 0 ["hold:1"], after.watch 0 ["hold:1", "holder:a"]]
    (looks.foldl merge {}).versions = [("hold:1", some 1), ("holder:a", none)] ∧
      (after.exec 0 (looks.foldl merge {}) []).1 = .aborted := by
  decide

end Holdfast.Watch
