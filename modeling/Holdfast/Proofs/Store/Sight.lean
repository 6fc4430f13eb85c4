import Holdfast.Proofs.Store.Scans
import Holdfast.Store.Request

/-!
# Stores that nobody can tell apart

Two stores look alike at some time if they have counted the same writes and the same entries are live
in them, with the same versions. An eviction leaves a store that looks like the one before it
(`alike_evict`). Stores that look alike do so later on (`Alike.later`), answer every request about
single keys alike and look alike after it (`Alike.answer`), and have the same entries ahead of a scan
(`Alike.ahead`), though their pages may end differently.
-/

namespace Holdfast.Store

/-- **The stores look alike**: they differ at most in entries that are no longer live. -/
structure Alike (now : Nat) (s t : Store) : Prop where
  writes : s.writes = t.writes
  live : ∀ key, s.live? now key = t.live? now key

/-- What is live later is live now and lasts until then. -/
theorem live?_later {now later : Nat} (le : now ≤ later) (s : Store) (key : String) :
    s.live? later key = (s.live? now key).filter (·.isLive later) := by
  rw [live?, live?, Option.filter_filter]
  congr 1
  funext e
  by_cases early : later < e.deadline
  · simp [Entry.isLive, early, Nat.lt_of_le_of_lt le early]
  · simp [Entry.isLive, early]

/-- **An eviction cannot be noticed.** -/
theorem alike_evict (now : Nat) (s : Store) : (s.evict now).2.Alike now s where
  writes := rfl
  live := live?_evict now now (Nat.le_refl now) s

namespace Alike

variable {now : Nat} {s t u : Store}

theorem refl (now : Nat) (s : Store) : s.Alike now s := ⟨rfl, fun _ => rfl⟩

theorem symm (alike : s.Alike now t) : t.Alike now s :=
  ⟨alike.writes.symm, fun key => (alike.live key).symm⟩

theorem trans (first : s.Alike now t) (second : t.Alike now u) : s.Alike now u :=
  ⟨first.writes.trans second.writes, fun key => (first.live key).trans (second.live key)⟩

variable (alike : s.Alike now t)

include alike

/-- Stores that look alike do so later on. -/
theorem later {later : Nat} (le : now ≤ later) : s.Alike later t where
  writes := alike.writes
  live key := by rw [live?_later le, live?_later le, alike.live]

/-! ## Looks -/

/-- The same texts are read. -/
theorem read? (key : String) : s.read? now key = t.read? now key := by
  rw [Store.read?, Store.read?, alike.live]

/-- The same time is left. -/
theorem remaining? (key : String) : s.remaining? now key = t.remaining? now key := by
  rw [Store.remaining?, Store.remaining?, alike.live]

/-- The same versions are seen. -/
theorem watch (keys : List String) : s.watch now keys = t.watch now keys := by
  simp only [Store.watch, alike.live]

/-- The same watches still stand. -/
theorem agrees (w : Watch) : s.agrees now w = t.agrees now w := by
  simp only [Store.agrees, alike.live]

/-- The same entries are live. -/
theorem liveEntries : s.liveEntries now = t.liveEntries now := by
  refine congrArg SortedMap.toList (SortedMap.ext_get? fun key => ?_)
  rw [SortedMap.get?_filter, SortedMap.get?_filter]
  exact alike.live key

/-- A scan has the same entries ahead of it. -/
theorem ahead (start : String) (cursor : Option String) :
    s.ahead now start cursor = t.ahead now start cursor := by
  rw [Store.ahead, Store.ahead, alike.liveEntries]

/-- A page of a scan that begins among its keys has the same entries. -/
theorem entries_scan {start : String} {cursor : Option String} (begins : Begins start cursor)
    (count : Nat) :
    (s.scan now start cursor count).entries = (t.scan now start cursor count).entries := by
  rw [Store.entries_scan (begins.clear _), Store.entries_scan (begins.clear _), alike.ahead]

/-! ## Writes -/

/-- Writing the same text. -/
theorem put (key value : String) (ttl : Nat) :
    (s.put now key value ttl).Alike now (t.put now key value ttl) where
  writes := congrArg (· + 1) alike.writes
  live key' := by
    by_cases same : key' = key
    · subst same
      rw [Store.live?, Store.live?, Store.put, Store.put, SortedMap.get?_insert_self,
        SortedMap.get?_insert_self, alike.writes]
    · rw [live?_put_ne _ _ _ same, live?_put_ne _ _ _ same, alike.live]

/-- Taking the same entry away. -/
theorem remove (key : String) : (s.remove key).Alike now (t.remove key) where
  writes := alike.writes
  live key' := by
    by_cases same : key' = key
    · subst same
      rw [live?_remove_self, live?_remove_self]
    · rw [live?_remove_ne _ _ same, live?_remove_ne _ _ same, alike.live]

/-- Carrying out the same write. -/
theorem apply (write : Write) : (s.apply now write).Alike now (t.apply now write) := by
  cases write with
  | put key value ttl => exact alike.put key value ttl
  | delete key => exact alike.remove key

omit alike in
/-- Carrying out the same writes. -/
theorem foldl_apply (alike : s.Alike now t) (writes : List Write) :
    (writes.foldl (Store.apply now) s).Alike now (writes.foldl (Store.apply now) t) := by
  induction writes generalizing s t with
  | nil => exact alike
  | cons write rest ih => exact ih (alike.apply write)

/-- **A request about single keys is answered alike**, and the stores look alike after it. -/
theorem answer {r : Request} (no_scan : ∀ start cursor count, r ≠ .scan start cursor count)
    (no_evict : r ≠ .evict) :
    (s.answer now r).1 = (t.answer now r).1 ∧ (s.answer now r).2.Alike now (t.answer now r).2 := by
  cases r with
  | tryCreate key value ttl =>
    simp only [Store.answer, tryCreate, alike.live]
    split
    · exact ⟨rfl, alike⟩
    · exact ⟨rfl, alike.put key value ttl⟩
  | read key => exact ⟨alike.read? key, alike⟩
  | refresh key value ttl => exact ⟨rfl, alike.put key value ttl⟩
  | delete key => exact ⟨congrArg Option.isSome (alike.live key), alike.remove key⟩
  | remaining key => exact ⟨alike.remaining? key, alike⟩
  | scan start cursor count => exact absurd rfl (no_scan start cursor count)
  | watch keys => exact ⟨alike.watch keys, alike⟩
  | exec w writes =>
    simp only [Store.answer, exec, alike.agrees]
    split
    · exact ⟨rfl, alike.foldl_apply writes⟩
    · exact ⟨rfl, alike⟩
  | evict => exact absurd rfl no_evict

end Alike

/-! ## Scans to the end -/

/-- What the pages of a scan have, one page after the other until one names no next page. Before each
page there may be an eviction. -/
def gather (now : Nat) (start : String) (count : Nat) (evicts : Nat → Bool) (s : Store)
    (cursor : Option String) : Nat → List (String × String) × Store
  | 0 => ([], s)
  | pages + 1 =>
    let s := if evicts pages then (s.evict now).2 else s
    let page := s.scan now start cursor count
    match page.next with
    | none => (page.entries, s)
    | some next => (gather now start count evicts s (some next) pages).map (page.entries ++ ·) id

/-- A scan paged to its end; there are fewer pages than entries, but for the last one. -/
def sweep (now : Nat) (start : String) (count : Nat) (evicts : Nat → Bool) (s : Store) :
    List (String × String) × Store := s.gather now start count evicts none (s.size + 1)

/-- **Gathering pages to the end gives whatever the scan has ahead of it**, and cannot be noticed. -/
theorem gather_eq {now count pages : Nat} {start : String} {evicts : Nat → Bool} {s : Store}
    {cursor : Option String} (begins : Begins start cursor)
    (enough : (s.ahead now start cursor).length < pages) :
    (s.gather now start count evicts cursor pages).1 = s.ahead now start cursor ∧
      (s.gather now start count evicts cursor pages).2.Alike now s := by
  induction pages generalizing s cursor with
  | zero => exact absurd enough (Nat.not_lt_zero _)
  | succ pages ih =>
    rw [gather]
    generalize found : (if evicts pages then (s.evict now).2 else s) = s'
    have alike : s'.Alike now s := by
      rw [← found]
      split
      · exact alike_evict now s
      · exact .refl now s
    rw [← alike.ahead] at enough ⊢
    have one : 1 ≤ max count 1 := Nat.le_max_right count 1
    have page : (s'.scan now start cursor count).entries = _ :=
      Store.entries_scan (begins.clear s') now count
    have next := Store.scan_next (begins.clear s') now count
    have split_up := List.take_append_drop (max count 1) (s'.ahead now start cursor)
    cases named : (s'.scan now start cursor count).next with
    | none =>
      rw [named] at next
      rw [next, List.append_nil] at split_up
      exact ⟨page.trans split_up, alike⟩
    | some key =>
      rw [named] at next
      obtain ⟨begins', rest, many⟩ := next
      have fewer : (s'.ahead now start (some key)).length < pages := by
        rw [rest, List.length_drop]
        omega
      obtain ⟨gathered, alike'⟩ := ih begins' fewer
      refine ⟨?_, alike'.trans alike⟩
      simp only [Prod.map_fst]
      rw [gathered, rest, page, split_up]

/-- No more entries are ahead of a scan than there are. -/
theorem length_ahead_le (now : Nat) (s : Store) (start : String) (cursor : Option String) :
    (s.ahead now start cursor).length ≤ s.size := by
  rw [ahead, List.length_map]
  exact Nat.le_trans (List.length_filter_le _ _) (List.length_filter_le _ _)

/-- **A scan paged to its end gives the live entries under its keys**, and cannot be noticed. -/
theorem sweep_eq (now : Nat) (start : String) (count : Nat) (evicts : Nat → Bool) (s : Store) :
    (s.sweep now start count evicts).1 = s.ahead now start none ∧
      (s.sweep now start count evicts).2.Alike now s :=
  gather_eq (begins_none start) (Nat.lt_succ_of_le (length_ahead_le now s start none))

end Holdfast.Store
