import Holdfast.Proofs.Conduct.Indifference
import Holdfast.Proofs.Register.Snapshot
import Mathlib.Data.List.Sort

/-!
# What a listing shows

A listing of holds, taken in a world that mirrors a register, gives a row for each live hold of the
register, in the order of the slots (`run_listHolds`). The store keeps holds in the order of their
keys, in which slot 10 comes before slot 2; it is the sorting that makes the two orders one.

A listing never runs out of pages: each key ahead of it is that of another slot
(`length_ahead_hold_le`).
-/

namespace Holdfast

/-- Two lists in the same strict order of some keys are the same if they have the same elements. -/
theorem KeyOrder.eq_of_sorted {κ α : Type} [KeyOrder κ] {key : α → κ} {l l' : List α}
    (sorted : l.Pairwise (key · < key ·)) (sorted' : l'.Pairwise (key · < key ·))
    (same : ∀ a, a ∈ l ↔ a ∈ l') : l = l' := by
  have : Std.Antisymm fun a b : α => key a < key b := ⟨fun _ _ lt gt => absurd gt (asymm lt)⟩
  have : Std.Irrefl fun a b : α => key a < key b := ⟨fun a => irrefl (key a)⟩
  exact sorted.eq_of_mem_iff sorted' same

namespace Reservation

/-- The row of a hold. -/
def Held.row (now : Nat) (slot : SlotId) (h : Held) : HoldRow :=
  { slot, owner := h.owner, day := h.day, ttl := secondsUp (h.deadline - now) }

namespace Register

variable {m : Register} {row : HoldRow}

/-- The rows of the live holds, in the order of the slots. -/
def rows (m : Register) : List HoldRow :=
  (m.holds.filter (·.2.isLive m.clock)).toList.map fun e => e.2.row m.clock e.1

/-- Every live hold has a row, and there are no others. -/
theorem mem_rows : row ∈ m.rows ↔ ∃ h, m.live? row.slot = some h ∧ row = h.row m.clock row.slot := by
  unfold rows live?
  simp only [List.mem_map, Prod.exists, SortedMap.mem_toList_iff, SortedMap.get?_filter]
  constructor
  · rintro ⟨slot, h, live, rfl⟩
    exact ⟨h, live, rfl⟩
  · rintro ⟨h, live, same⟩
    exact ⟨row.slot, h, live, same.symm⟩

/-- The rows come in the order of the slots. -/
theorem sorted_rows (m : Register) : m.rows.Pairwise (·.slot < ·.slot) :=
  List.pairwise_map.2 (m.holds.filter (·.2.isLive m.clock)).sorted

end Register

/-- Rows of different slots, sorted by their slots, come in the order of the slots. -/
theorem HoldRow.sorted_mergeSort {rows : List HoldRow} (distinct : rows.Pairwise (·.slot ≠ ·.slot)) :
    (rows.mergeSort fun a b => a.slot ≤ b.slot).Pairwise (·.slot < ·.slot) := by
  have sorted : (rows.mergeSort fun a b => a.slot ≤ b.slot).Pairwise
      fun a b => decide (a.slot ≤ b.slot) = true :=
    List.pairwise_mergeSort (fun a b c => by simpa using UInt64.le_trans)
      (fun a b => by simpa using UInt64.le_total _ _) rows
  have distinct' := ((List.mergeSort_perm rows fun a b => a.slot ≤ b.slot).pairwise_iff
    fun h => Ne.symm h).2 distinct
  refine (sorted.and distinct').imp fun {a b} both => ?_
  exact UInt64.lt_of_le_of_ne (of_decide_eq_true both.1) both.2

namespace World.Mirrors

variable {policy : Policy} {calendar : Calendar} {w : World} {m : Register}
  (mirrors : w.Mirrors policy calendar m)

include mirrors

/-- **What a listing has ahead of it are the live holds.** -/
theorem mem_ahead_hold {key text : String} :
    (key, text) ∈ w.store.ahead w.clock Key.holdStart none ↔
      ∃ slot h, m.live? slot = some h ∧ key = Key.hold slot ∧ text = (h.record slot).encode := by
  rw [Store.mem_ahead]
  constructor
  · rintro ⟨read, starts, -⟩
    obtain ⟨e, live, rfl⟩ := Option.map_eq_some_iff.1 read
    obtain ⟨hold, rfl, -⟩ :=
      (mirrors.written key e (Store.live?_eq_some_iff.1 live).1).hold_of_isHold starts
    rw [mirrors.read?_hold, Option.map_eq_some_iff] at read
    obtain ⟨h, there, same⟩ := read
    exact ⟨hold.slot, h, there, rfl, same.symm⟩
  · rintro ⟨slot, h, live, rfl, rfl⟩
    have starts : Store.startsWith Key.holdStart (Key.hold slot) = true := Key.isHold_hold slot
    exact ⟨by rw [mirrors.read?_hold, live]; rfl, starts, Store.isAfter_none starts⟩

/-- There are no more of them than slots. -/
theorem length_ahead_hold_le :
    (w.store.ahead w.clock Key.holdStart none).length ≤ UInt64.size := by
  have distinct : ((w.store.ahead w.clock Key.holdStart none).map (·.1)).Nodup :=
    List.pairwise_map.2 ((Store.sorted_ahead _ w.store _ _).imp KeyOrder.ne_of_lt)
  have among : (w.store.ahead w.clock Key.holdStart none).map (·.1) ⊆
      (List.range UInt64.size).map fun n => Key.hold (UInt64.ofNat n) := by
    intro key mem
    obtain ⟨⟨key, text⟩, there, rfl⟩ := List.mem_map.1 mem
    obtain ⟨slot, h, -, rfl, -⟩ := mirrors.mem_ahead_hold.1 there
    refine List.mem_map.2 ⟨slot.toNat, List.mem_range.2 slot.toNat_lt, ?_⟩
    rw [UInt64.ofNat_toNat]
  have few := (List.subperm_of_subset distinct among).length_le
  simpa using few

/-- The row of an entry that writes a live hold. -/
theorem rowOf?_hold {slot : SlotId} {h : Held} (live : m.live? slot = some h) :
    w.rowOf? (Key.hold slot, (h.record slot).encode) = some (h.row m.clock slot) := by
  simp only [rowOf?, (h.record slot).decode?_encode, mirrors.remaining?_hold, live]
  rfl

/-- **A listing shows the live holds, in the order of the slots.** -/
theorem run_listHolds : ∃ metrics, w.run listHolds = (.ok m.rows, { w with metrics }) := by
  have pages : UInt64.size < pageSize * maxPages := by decide
  obtain ⟨metrics, run⟩ :=
    w.run_listHolds (Nat.lt_of_le_of_lt mirrors.length_ahead_hold_le pages)
  refine ⟨metrics, ?_⟩
  rw [run]
  have distinct : ((w.store.ahead w.clock Key.holdStart none).filterMap w.rowOf?).Pairwise
      (·.slot ≠ ·.slot) := by
    refine List.pairwise_filterMap.2 ((Store.sorted_ahead _ w.store _ _).imp_of_mem ?_)
    rintro ⟨key, text⟩ ⟨key', text'⟩ mem mem' lt row shows row' shows' same
    obtain ⟨slot, h, live, rfl, rfl⟩ := mirrors.mem_ahead_hold.1 mem
    obtain ⟨slot', h', live', rfl, rfl⟩ := mirrors.mem_ahead_hold.1 mem'
    rw [mirrors.rowOf?_hold live] at shows
    rw [mirrors.rowOf?_hold live'] at shows'
    cases shows
    cases shows'
    obtain rfl : slot = slot' := same
    exact KeyOrder.irrefl _ lt
  have all : ∀ row, row ∈ ((w.store.ahead w.clock Key.holdStart none).filterMap w.rowOf?).mergeSort
      (fun a b => a.slot ≤ b.slot) ↔ row ∈ m.rows := by
    intro row
    rw [List.mem_mergeSort, List.mem_filterMap, Register.mem_rows]
    constructor
    · rintro ⟨⟨key, text⟩, mem, shows⟩
      obtain ⟨slot, h, live, rfl, rfl⟩ := mirrors.mem_ahead_hold.1 mem
      rw [mirrors.rowOf?_hold live] at shows
      cases shows
      exact ⟨h, live, rfl⟩
    · rintro ⟨h, live, same⟩
      refine ⟨_, mirrors.mem_ahead_hold.2 ⟨row.slot, h, live, rfl, rfl⟩, ?_⟩
      rw [mirrors.rowOf?_hold live, ← same]
  rw [KeyOrder.eq_of_sorted (HoldRow.sorted_mergeSort distinct) m.sorted_rows all]

end World.Mirrors
end Reservation
end Holdfast
