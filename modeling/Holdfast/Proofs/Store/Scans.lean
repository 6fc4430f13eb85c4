import Holdfast.Store.Scan

/-!
# What scans and evictions give

A scan gives live entries only (`mem_scan`), and an eviction those that are no longer live
(`mem_evict`).

The keys that start with a given text stand next to each other, so a scan that meets nothing in front of
them walks over just those behind its cursor (`walk_eq_filter`). Its page has the first of the live
entries ahead of it (`entries_scan`), and names the last of them if it may be that more follow
(`scan_next`); a scan that goes on from there has ahead of it what is left. A scan that meets something
in front of its keys stops there (`walk_of_stray`).
-/

namespace Holdfast

/-- Of a list whose good elements all stand in front, the good ones are the front. -/
theorem takeWhile_eq_filter {α : Type} {p : α → Bool} {l : List α}
    (front : l.Pairwise fun a b => p b = true → p a = true) : l.takeWhile p = l.filter p := by
  induction l with
  | nil => rfl
  | cons a rest ih =>
    obtain ⟨first, others⟩ := List.pairwise_cons.1 front
    by_cases good : p a = true
    · rw [List.takeWhile_cons_of_pos good, List.filter_cons_of_pos good, ih others]
    · have none_good : rest.filter p = [] :=
        List.filter_eq_nil_iff.2 fun b mem later => good (first b mem later)
      rw [List.takeWhile_cons_of_neg good, List.filter_cons_of_neg good, none_good]

/-- What stands between two texts with the same beginning begins like them. -/
theorem prefix_of_between {start x y b : List Char} (low : start ++ x < b)
    (high : b < start ++ y) : start <+: b := by
  induction start generalizing b with
  | nil => exact List.nil_prefix
  | cons c rest ih =>
    cases b with
    | nil => exact absurd low (List.not_lt_nil _)
    | cons d b =>
      rcases List.cons_lt_cons_iff.1 low with below | ⟨rfl, low'⟩
      · rcases List.cons_lt_cons_iff.1 high with above | ⟨rfl, -⟩
        · exact absurd (Std.lt_trans below above) (Std.lt_irrefl)
        · exact absurd below (Std.lt_irrefl)
      · rcases List.cons_lt_cons_iff.1 high with above | ⟨-, high'⟩
        · exact absurd above (Std.lt_irrefl)
        · exact List.cons_prefix_cons.2 ⟨rfl, ih low' high'⟩

namespace Store

/-- Does the key start with the text? -/
def startsWith (start key : String) : Bool := start.toList.isPrefixOf key.toList

/-- The cursor is among the keys of the scan, if there is one. -/
def Begins (start : String) (cursor : Option String) : Prop :=
  ∀ c, cursor = some c → startsWith start c = true

/-- A scan without a cursor begins with its keys. -/
theorem begins_none (start : String) : Begins start none := nofun

variable {now count : Nat} {s : Store} {start key : String} {cursor : Option String}

/-- The scan meets nothing in front of its keys, live or not. -/
def Clear (s : Store) (start : String) (cursor : Option String) : Prop :=
  ∀ key e, s.entries.get? key = some e → isAfter start cursor key = true → ¬ key < start

/-- A key of the scan is not in front of what its keys start with. -/
theorem not_lt_of_startsWith (starts : startsWith start key = true) : ¬ key < start := by
  have le := (List.isPrefixOf_iff_prefix.1 starts).le
  intro lt
  exact le (String.lt_iff.1 lt)

/-- A scan without a cursor has all its keys ahead of it. -/
theorem isAfter_none (starts : startsWith start key = true) : isAfter start none key = true := by
  simp [isAfter, not_lt_of_startsWith starts]

/-- Whatever stands behind a key that is behind the cursor is behind the cursor, too. -/
theorem isAfter_of_lt {key' : String} (behind : isAfter start cursor key = true)
    (lt : key < key') : isAfter start cursor key' = true := by
  cases cursor with
  | some c => exact decide_eq_true (KeyOrder.trans (of_decide_eq_true behind) lt)
  | none =>
    simp only [isAfter, Bool.not_eq_true', decide_eq_false_iff_not] at behind ⊢
    exact fun below => behind (KeyOrder.trans lt below)

/-- A scan that begins among its keys meets nothing in front of them. -/
theorem Begins.clear (begins : Begins start cursor) (s : Store) : s.Clear start cursor := by
  intro key e _ behind front
  cases cursor with
  | some c =>
    have lt : c < start := KeyOrder.trans (of_decide_eq_true behind) front
    exact not_lt_of_startsWith (begins c rfl) lt
  | none =>
    rw [isAfter, decide_eq_true front] at behind
    cases behind

/-- Whatever stands between the first of the keys of a scan and another one is one of them. -/
theorem startsWith_of_lt {key' : String} (front : ¬ key < start) (lt : key < key')
    (later : startsWith start key' = true) : startsWith start key = true := by
  obtain ⟨y, eq⟩ := List.isPrefixOf_iff_prefix.1 later
  have high : key.toList < start.toList ++ y := by
    rw [eq]
    exact String.lt_iff.1 lt
  refine List.isPrefixOf_iff_prefix.2 ?_
  rcases KeyOrder.trichotomy start key with below | rfl | above
  · have low : start.toList ++ [] < key.toList := by
      rw [List.append_nil]
      exact String.lt_iff.1 below
    exact prefix_of_between low high
  · exact List.prefix_refl _
  · exact absurd above front

/-- **A scan walks over its keys behind the cursor**, if it meets nothing in front of them. -/
theorem walk_eq_filter (clear : s.Clear start cursor) : s.walk start cursor =
    s.entries.toList.filter fun e => startsWith start e.1 && isAfter start cursor e.1 := by
  have sorted := (s.entries.filter fun e => isAfter start cursor e.1).sorted
  have front : (s.entries.filter fun e => isAfter start cursor e.1).toList.Pairwise
      fun a b => startsWith start b.1 = true → startsWith start a.1 = true := by
    refine sorted.imp_of_mem fun {a b} mem _ lt later => ?_
    obtain ⟨there, behind⟩ := List.mem_filter.1 mem
    exact startsWith_of_lt (clear a.1 a.2 ((SortedMap.mem_toList_iff _).1 there) behind) lt later
  refine (takeWhile_eq_filter front).trans ?_
  exact List.filter_filter

/-- **A scan stops at once** where it meets something in front of its keys. -/
theorem walk_of_stray {e : Entry} (there : s.entries.get? key = some e)
    (behind : isAfter start cursor key = true) (front : key < start) :
    s.walk start cursor = [] := by
  have met : (key, e) ∈ (s.entries.filter fun e => isAfter start cursor e.1).toList :=
    List.mem_filter.2 ⟨(SortedMap.mem_toList_iff _).2 there, behind⟩
  have sorted : (s.entries.filter fun e => isAfter start cursor e.1).toList.Pairwise
      (·.1 < ·.1) := (s.entries.filter fun e => isAfter start cursor e.1).sorted
  unfold walk
  cases walked : (s.entries.filter fun e => isAfter start cursor e.1).toList with
  | nil => rfl
  | cons first rest =>
    rw [walked] at met sorted
    have first_front : first.1 < start := by
      rcases List.mem_cons.1 met with rfl | later
      · exact front
      · exact KeyOrder.trans ((List.pairwise_cons.1 sorted).1 _ later) front
    have other : ¬ startsWith start first.1 = true :=
      fun starts => not_lt_of_startsWith starts first_front
    exact List.takeWhile_cons_of_neg other

/-! ## What a page has -/

/-- The live entries that a scan has ahead of it. -/
def ahead (now : Nat) (s : Store) (start : String) (cursor : Option String) :
    List (String × String) :=
  ((s.liveEntries now).filter fun e => startsWith start e.1 && isAfter start cursor e.1).map
    fun e => (e.1, e.2.value)

/-- The live ones among some entries. -/
def liveOf (now : Nat) (entries : List (String × Entry)) : List (String × String) :=
  (entries.filter (·.2.isLive now)).map fun e => (e.1, e.2.value)

/-- What a scan has ahead of it is what is live of what it walks over. -/
theorem ahead_eq (clear : s.Clear start cursor) :
    s.ahead now start cursor = liveOf now (s.walk start cursor) := by
  rw [walk_eq_filter clear, liveOf, List.filter_filter, ahead, liveEntries, SortedMap.toList,
    SortedMap.filter, List.filter_filter]
  simp only [Bool.and_comm]
  rfl

/-- **A page has the first of the live entries that are walked over.** It names the last of them if it
is full and there was more to walk over; else it has them all. -/
theorem fillPage_eq {found : List (String × String)} {last : Option String}
    {walked : List (String × Entry)} (room : found.length ≤ count)
    (latest : found.length = count → last = found.head?.map (·.1)) :
    let page := fillPage now count found last walked
    page.entries = found.reverse ++ (liveOf now walked).take (count - found.length) ∧
      (page.next = none ∧ (liveOf now walked).length ≤ count - found.length ∨
        page.next = page.entries.getLast?.map (·.1) ∧
          count - found.length ≤ (liveOf now walked).length) := by
  induction walked generalizing found last with
  | nil => exact ⟨by simp [fillPage, liveOf], .inl ⟨rfl, Nat.zero_le _⟩⟩
  | cons e rest ih =>
    obtain ⟨key, e⟩ := e
    dsimp only [fillPage]
    by_cases full : found.length = count
    · rw [if_pos full, full, Nat.sub_self, List.take_zero, List.append_nil]
      refine ⟨rfl, .inr ⟨?_, Nat.zero_le _⟩⟩
      rw [latest full, List.getLast?_reverse]
    · rw [if_neg full]
      cases live : e.isLive now with
      | true =>
        have more : ((key, e.value) :: found).length ≤ count := Nat.lt_of_le_of_ne room full
        have with_it : liveOf now ((key, e) :: rest) = (key, e.value) :: liveOf now rest := by
          simp [liveOf, live]
        have left : count - found.length = count - ((key, e.value) :: found).length + 1 := by
          rw [List.length_cons] at more ⊢
          omega
        obtain ⟨entries, next⟩ := @ih ((key, e.value) :: found) (some key) more fun _ => rfl
        rw [if_pos rfl, with_it, left, List.take_succ_cons, List.length_cons]
        refine ⟨?_, ?_⟩
        · rw [entries, List.reverse_cons, List.append_assoc]
          rfl
        · rcases next with ⟨none_named, few⟩ | ⟨named, many⟩
          · exact .inl ⟨none_named, Nat.succ_le_succ few⟩
          · exact .inr ⟨named, Nat.succ_le_succ many⟩
      | false =>
        have without : liveOf now ((key, e) :: rest) = liveOf now rest := by simp [liveOf, live]
        rw [if_neg Bool.false_ne_true, without]
        exact ih room fun now_full => absurd now_full full

/-- A page, by what is walked over. -/
theorem scan_eq (now : Nat) (s : Store) (start : String) (cursor : Option String) (count : Nat) :
    let page := s.scan now start cursor count
    let live := liveOf now (s.walk start cursor)
    page.entries = live.take (max count 1) ∧
      (page.next = none ∧ live.length ≤ max count 1 ∨
        page.next = page.entries.getLast?.map (·.1) ∧ max count 1 ≤ live.length) := by
  have one : 1 ≤ max count 1 := Nat.le_max_right count 1
  exact fillPage_eq (Nat.zero_le _) fun zero => absurd zero (Nat.ne_of_lt one)

/-- The live entries among some are read under their keys. -/
theorem mem_liveOf {text : String} {entries : List (String × Entry)} :
    (key, text) ∈ liveOf now entries ↔
      ∃ e, (key, e) ∈ entries ∧ e.isLive now = true ∧ e.value = text := by
  simp only [liveOf, List.mem_map, List.mem_filter, Prod.mk.injEq, Prod.exists]
  constructor
  · rintro ⟨key', e, ⟨mem, live⟩, rfl, rfl⟩
    exact ⟨e, mem, live, rfl⟩
  · rintro ⟨e, mem, live, rfl⟩
    exact ⟨key, e, ⟨mem, live⟩, rfl, rfl⟩

/-- **What stands on a page can be read, under a key of the scan.** -/
theorem mem_scan {text : String} (mem : (key, text) ∈ (s.scan now start cursor count).entries) :
    s.read? now key = some text ∧ startsWith start key = true := by
  rw [(scan_eq now s start cursor count).1] at mem
  have given := List.mem_of_mem_take mem
  obtain ⟨e, walked, live, rfl⟩ := mem_liveOf.1 given
  have there := (SortedMap.mem_toList_iff _).1 (List.takeWhile_sublist _ |>.mem walked)
  rw [SortedMap.get?_filter, Option.filter_eq_some_iff] at there
  have starts := List.all_eq_true.1 List.all_takeWhile (key, e) walked
  refine ⟨Option.map_eq_some_iff.2 ⟨e, ?_, rfl⟩, starts⟩
  exact live?_eq_some_iff.2 ⟨there.1, of_decide_eq_true live⟩

/-- **An eviction gives what ran out.** -/
theorem mem_evict {text : String} : (key, text) ∈ (s.evict now).1 ↔
    ∃ e, s.entries.get? key = some e ∧ e.value = text ∧ e.deadline ≤ now := by
  simp only [evict, List.mem_map, Prod.mk.injEq, Prod.exists, SortedMap.mem_toList_iff,
    SortedMap.get?_filter, Option.filter_eq_some_iff, Entry.isLive]
  constructor
  · rintro ⟨key', e, ⟨there, late⟩, rfl, rfl⟩
    exact ⟨e, there, rfl, by simpa using late⟩
  · rintro ⟨e, there, rfl, late⟩
    exact ⟨key, e, ⟨there, by simpa using late⟩, rfl, rfl⟩

/-- **A page has the first of the live entries that a scan has ahead of it.** -/
theorem entries_scan (clear : s.Clear start cursor) (now count : Nat) :
    (s.scan now start cursor count).entries =
      (s.ahead now start cursor).take (max count 1) := by
  rw [ahead_eq clear]
  exact (scan_eq now s start cursor count).1

/-! ## Going on behind a page -/

/-- The keys ahead of a scan increase. -/
theorem sorted_ahead (now : Nat) (s : Store) (start : String) (cursor : Option String) :
    (s.ahead now start cursor).Pairwise (·.1 < ·.1) :=
  List.pairwise_map.2 ((s.entries.filter (·.2.isLive now)).sorted.filter _)

/-- What a scan has ahead of it are live entries with its keys, behind the cursor. -/
theorem mem_ahead {text : String} : (key, text) ∈ s.ahead now start cursor ↔
    s.read? now key = some text ∧ startsWith start key = true ∧ isAfter start cursor key = true := by
  simp only [ahead, liveEntries, List.mem_map, List.mem_filter, Bool.and_eq_true, Prod.mk.injEq,
    Prod.exists, read?, Option.map_eq_some_iff]
  constructor
  · rintro ⟨key', e, ⟨mem, starts, behind⟩, rfl, rfl⟩
    have there := (SortedMap.mem_toList_iff _).1 mem
    rw [SortedMap.get?_filter] at there
    exact ⟨⟨e, there, rfl⟩, starts, behind⟩
  · rintro ⟨⟨e, live, rfl⟩, starts, behind⟩
    refine ⟨key, e, ⟨(SortedMap.mem_toList_iff _).2 ?_, starts, behind⟩, rfl, rfl⟩
    rw [SortedMap.get?_filter]
    exact live

/-- What is ahead of a scan that goes on behind one of the entries ahead of it. -/
theorem ahead_some (behind : isAfter start cursor key = true) : s.ahead now start (some key) =
    (s.ahead now start cursor).filter fun e => decide (key < e.1) := by
  rw [ahead, ahead, List.filter_map, List.filter_filter]
  congr 1
  refine List.filter_congr fun e _ => ?_
  by_cases lt : key < e.1
  · simp only [isAfter, Function.comp_apply, decide_eq_true lt, Bool.true_and]
    rw [← isAfter.eq_def, isAfter_of_lt behind lt]
  · simp only [isAfter, Function.comp_apply, decide_eq_false lt, Bool.false_and, Bool.and_false]

/-- In a list with increasing keys, what is behind the last of the first few is the rest. -/
theorem filter_behind {l : List (String × String)} {m : Nat} (sorted : l.Pairwise (·.1 < ·.1))
    (last : (l.take m).getLast?.map (·.1) = some key) :
    (l.filter fun e => decide (key < e.1)) = l.drop m := by
  obtain ⟨e, latest, rfl⟩ := Option.map_eq_some_iff.1 last
  obtain ⟨front, eq⟩ := List.getLast?_eq_some_iff.1 latest
  rw [← List.take_append_drop m l, eq, List.append_assoc, List.singleton_append] at sorted
  obtain ⟨-, behind, before⟩ := List.pairwise_append.1 sorted
  obtain ⟨all_later, -⟩ := List.pairwise_cons.1 behind
  have none_before : (front ++ [e]).filter (fun x => decide (e.1 < x.1)) = [] := by
    refine List.filter_eq_nil_iff.2 fun x mem => ?_
    simp only [decide_eq_true_eq]
    rcases List.mem_append.1 mem with mem | mem
    · exact KeyOrder.asymm (before x mem e List.mem_cons_self)
    · rw [List.mem_singleton.1 mem]
      exact KeyOrder.irrefl _
  have all_behind : (l.drop m).filter (fun x => decide (e.1 < x.1)) = l.drop m :=
    List.filter_eq_self.2 fun x mem => decide_eq_true (all_later x mem)
  have parts := congrArg (List.filter fun x => decide (e.1 < x.1)) (List.take_append_drop m l)
  rw [← parts, List.filter_append, eq, none_before, all_behind, List.nil_append]

/-- **What a page's end says**: without a next page nothing is left; else a scan that goes on has
ahead of it what the page leaves. -/
theorem scan_next (clear : s.Clear start cursor) (now count : Nat) :
    match (s.scan now start cursor count).next with
    | none => (s.ahead now start cursor).drop (max count 1) = []
    | some key => Begins start (some key) ∧
        s.ahead now start (some key) = (s.ahead now start cursor).drop (max count 1) ∧
        max count 1 ≤ (s.ahead now start cursor).length := by
  obtain ⟨entries, ⟨next, few⟩ | ⟨next, many⟩⟩ := scan_eq now s start cursor count
  · rw [next, ahead_eq clear]
    exact List.drop_eq_nil_of_le few
  · rw [next, entries, ahead_eq clear]
    cases last : ((liveOf now (s.walk start cursor)).take (max count 1)).getLast?.map (·.1) with
    | none =>
      rw [Option.map_eq_none_iff, List.getLast?_eq_none_iff, List.take_eq_nil_iff] at last
      rcases last with zero | empty
      · omega
      · rw [empty]
        exact List.drop_nil
    | some key =>
      rw [← ahead_eq clear] at last ⊢
      obtain ⟨⟨key', text⟩, latest, rfl⟩ := Option.map_eq_some_iff.1 last
      have mem := List.mem_of_mem_take (List.mem_of_getLast? latest)
      obtain ⟨-, starts, behind⟩ := mem_ahead.1 mem
      refine ⟨fun c eq => Option.some.inj eq ▸ starts, ?_, ?_⟩
      · exact (ahead_some behind).trans (filter_behind (sorted_ahead _ _ _ _) last)
      · rw [ahead_eq clear]
        exact many

end Store
end Holdfast
