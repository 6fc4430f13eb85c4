import Holdfast.Proofs.Store.Scans

/-!
# What one page does for a scan

A scan that goes through a store page by page looks at it at different moments, and the store may be
another one each time. So what a page is good for is said of the page alone (`Turns`, `turns_scan`): its
entries are live and lie behind the cursor, in order; the key that it names for the next page lies
in front of none of them; and whatever is live behind the cursor is on the page or lies behind that
key. Nothing behind the cursor is passed over, whatever happens before the next page.
-/

namespace Holdfast.Store

variable {now count : Nat} {s : Store} {start key text last : String} {cursor : Option String}

/-! ## The live entries with the keys of a scan -/

/-- The live entries whose keys start with the text. -/
def matching (now : Nat) (s : Store) (start : String) : List (String × String) :=
  ((s.liveEntries now).filter fun e => startsWith start e.1).map fun e => (e.1, e.2.value)

/-- A scan without a cursor has all of them ahead of it. -/
theorem ahead_none (now : Nat) (s : Store) (start : String) :
    s.ahead now start none = s.matching now start := by
  unfold ahead matching
  congr 1
  refine List.filter_congr fun e _ => ?_
  cases starts : startsWith start e.1 with
  | true => simp [isAfter_none starts]
  | false => simp

/-- They are what can be read under such keys. -/
theorem mem_matching : (key, text) ∈ s.matching now start ↔
    s.read? now key = some text ∧ startsWith start key = true := by
  rw [← ahead_none, mem_ahead]
  constructor
  · rintro ⟨read, starts, -⟩
    exact ⟨read, starts⟩
  · rintro ⟨read, starts⟩
    exact ⟨read, starts, isAfter_none starts⟩

/-! ## From page to page -/

/-- **What a page does for a scan** that goes on behind a cursor. -/
structure Turns (now : Nat) (s : Store) (start : String) (cursor : Option String) (count : Nat)
    (page : Page) : Prop where
  few : page.entries.length ≤ max count 1
  sorted : page.entries.Pairwise (·.1 < ·.1)
  /-- What is on the page is live, and lies behind the cursor. -/
  live : ∀ e ∈ page.entries, s.read? now e.1 = some e.2 ∧ startsWith start e.1 = true ∧
    isAfter start cursor e.1 = true
  /-- The key for the next page lies behind the cursor, too, and in front of nothing on the page. -/
  next : ∀ last, page.next = some last → startsWith start last = true ∧
    isAfter start cursor last = true ∧ ∀ e ∈ page.entries, ¬ last < e.1
  /-- What is live behind the cursor is on the page, or the next page begins in front of it. -/
  passes_none : ∀ key text, s.read? now key = some text → startsWith start key = true →
    isAfter start cursor key = true →
    (key, text) ∈ page.entries ∨ ∃ last, page.next = some last ∧ last < key

/-- The key for the next page is the last one on the page. -/
theorem entries_of_next (next : (s.scan now start cursor count).next = some last) :
    ∃ front text, (s.scan now start cursor count).entries = front ++ [(last, text)] := by
  obtain ⟨-, ⟨none_named, -⟩ | ⟨named, -⟩⟩ := scan_eq now s start cursor count
  · rw [none_named] at next
    cases next
  · rw [named] at next
    obtain ⟨⟨key, text⟩, latest, rfl⟩ := Option.map_eq_some_iff.1 next
    obtain ⟨front, eq⟩ := List.getLast?_eq_some_iff.1 latest
    exact ⟨front, text, eq⟩

/-- **A page passes nothing over**, if the scan meets nothing in front of its keys. -/
theorem turns_scan (clear : s.Clear start cursor) (now count : Nat) :
    s.Turns now start cursor count (s.scan now start cursor count) := by
  have entries := entries_scan clear now count
  have live : ∀ e ∈ (s.scan now start cursor count).entries, s.read? now e.1 = some e.2 ∧
      startsWith start e.1 = true ∧ isAfter start cursor e.1 = true := by
    intro e mem
    rw [entries] at mem
    exact mem_ahead.1 (List.mem_of_mem_take mem)
  have sorted : (s.scan now start cursor count).entries.Pairwise (·.1 < ·.1) := by
    rw [entries]
    exact (sorted_ahead now s start cursor).sublist (List.take_sublist _ _)
  refine ⟨?few, sorted, live, ?next, ?passes_none⟩
  case few =>
    rw [entries]
    exact List.length_take_le _ _
  case next =>
    intro last next
    obtain ⟨front, text, eq⟩ := entries_of_next next
    obtain ⟨-, starts, behind⟩ := live (last, text) (by simp [eq])
    refine ⟨starts, behind, ?_⟩
    intro e mem
    rw [eq] at mem sorted
    rcases List.mem_append.1 mem with before | same
    · have lt := (List.pairwise_append.1 sorted).2.2 e before (last, text) List.mem_cons_self
      exact KeyOrder.asymm lt
    · rw [List.mem_singleton.1 same]
      exact KeyOrder.irrefl last
  case passes_none =>
    intro key text read starts behind
    have mem : (key, text) ∈ s.ahead now start cursor := mem_ahead.2 ⟨read, starts, behind⟩
    rw [← List.take_append_drop (max count 1) (s.ahead now start cursor)] at mem
    rcases List.mem_append.1 mem with first | rest
    · exact .inl (entries ▸ first)
    · right
      have next := scan_next clear now count
      cases named : (s.scan now start cursor count).next with
      | none =>
        simp only [named] at next
        rw [next] at rest
        cases rest
      | some last =>
        simp only [named] at next
        rw [← next.2.1] at rest
        obtain ⟨-, -, later⟩ := mem_ahead.1 rest
        exact ⟨last, rfl, of_decide_eq_true later⟩

end Holdfast.Store
