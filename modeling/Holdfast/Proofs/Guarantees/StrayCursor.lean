import Holdfast.Proofs.Store.Pages

/-!
# Scans from any cursor

A page is promised to have the first of the live entries whose keys start with a given text and stand
behind the cursor, and to name a key for the next page unless it has the last of them. The cursor may be
any text, not only one that a page named.

A scan keeps the promise (`Page.Keeps`) unless its cursor stands in front of its keys with some other
entry, live or not, in between: there the walk stops before it comes to a key of the scan, and the page
is empty and says that nothing follows (`Misled`, `scan_keeps_iff`).
-/

namespace Holdfast

/-- **A page keeps what is promised** of it: it has the first of the entries that are due, and names no
key for a next page only if there are no more of them. -/
structure Page.Keeps (page : Page) (due : List (String × String)) (count : Nat) : Prop where
  entries : page.entries = due.take (max count 1)
  next : page.next = none → due.length ≤ max count 1

namespace Store

/-- The live entries whose keys start with the text and stand behind the cursor, if there is one. -/
def due (now : Nat) (s : Store) (start : String) (cursor : Option String) :
    List (String × String) :=
  (s.matching now start).filter fun e => cursor.all fun c => decide (c < e.1)

/-- **The cursor misleads the scan**: it stands in front of the keys of the scan, there is an entry in
between, live or not, and a key of the scan is live. -/
structure Misled (now : Nat) (s : Store) (start : String) (cursor : Option String) : Prop where
  stray : ∃ c key e, cursor = some c ∧ s.entries.get? key = some e ∧ c < key ∧ key < start
  missed : ∃ key text, s.read? now key = some text ∧ startsWith start key = true

variable {now count : Nat} {s : Store} {start key text : String} {cursor : Option String}

/-- What is due is what the scan has ahead of it. -/
theorem ahead_eq_due (now : Nat) (s : Store) (start : String) (cursor : Option String) :
    s.ahead now start cursor = s.due now start cursor := by
  cases cursor with
  | none => exact (ahead_none now s start).trans (List.filter_eq_self.2 fun _ _ => rfl).symm
  | some c =>
    unfold ahead due matching
    rw [List.filter_map, List.filter_filter]
    simp only [isAfter, Option.all_some, Function.comp_def, Bool.and_comm]

/-- Everything under the keys of a scan is due behind a cursor that stands in front of them. -/
theorem mem_due_of_front {c : String} (front : c < start) (read : s.read? now key = some text)
    (starts : startsWith start key = true) : (key, text) ∈ s.due now start (some c) := by
  rw [← ahead_eq_due, mem_ahead]
  have lt : c < key := KeyOrder.lt_of_lt_of_not_lt front (not_lt_of_startsWith starts)
  exact ⟨read, starts, decide_eq_true lt⟩

/-- A scan that meets nothing in front of its keys keeps what is promised. -/
theorem keeps_of_clear (clear : s.Clear start cursor) :
    (s.scan now start cursor count).Keeps (s.due now start cursor) count := by
  rw [← ahead_eq_due]
  refine ⟨entries_scan clear now count, ?_⟩
  intro last
  have left := scan_next clear now count
  simp only [last] at left
  exact List.drop_eq_nil_iff.1 left

/-- Whatever a scan meets in front of its keys stands behind a cursor. -/
theorem stray_of_not_clear (unclear : ¬ s.Clear start cursor) :
    ∃ c key e, cursor = some c ∧ s.entries.get? key = some e ∧ c < key ∧ key < start := by
  simp only [Clear, Classical.not_forall, Classical.not_not] at unclear
  obtain ⟨key, e, there, behind, front⟩ := unclear
  cases cursor with
  | none => simp [isAfter, front] at behind
  | some c => exact ⟨c, key, e, rfl, there, of_decide_eq_true behind, front⟩

/-- What a scan meets in front of its keys ends it at once. -/
theorem scan_of_stray {c : String} {e : Entry} (there : s.entries.get? key = some e)
    (behind : c < key) (front : key < start) : s.scan now start (some c) count = {} := by
  have after_cursor : isAfter start (some c) key = true := decide_eq_true behind
  rw [scan, walk_of_stray there after_cursor front]
  rfl

/-- **A scan from any cursor keeps what is promised unless the cursor misleads it**; then its page is
empty and says that nothing follows. -/
theorem scan_keeps_iff (now : Nat) (s : Store) (start : String) (cursor : Option String)
    (count : Nat) :
    ((s.scan now start cursor count).Keeps (s.due now start cursor) count ↔
        ¬ s.Misled now start cursor) ∧
      (s.Misled now start cursor → s.scan now start cursor count = {}) := by
  constructor
  · by_cases clear : s.Clear start cursor
    · apply iff_of_true (keeps_of_clear clear)
      rintro ⟨⟨c, key, e, rfl, there, behind, front⟩, -⟩
      exact clear key e there (decide_eq_true behind) front
    · obtain ⟨c, key, e, rfl, there, behind, front⟩ := stray_of_not_clear clear
      rw [scan_of_stray there behind front]
      have in_front : c < start := KeyOrder.trans behind front
      constructor
      · rintro ⟨entries, -⟩ ⟨-, key', text, read, starts⟩
        have due := mem_due_of_front in_front read starts
        have one : max count 1 ≠ 0 := by omega
        rcases List.take_eq_nil_iff.1 entries.symm with none_taken | none_due
        · exact one none_taken
        · rw [none_due] at due
          cases due
      · intro fair
        have none_due : s.due now start (some c) = [] := by
          rw [List.eq_nil_iff_forall_not_mem]
          rintro ⟨key', text⟩ mem
          obtain ⟨read, starts⟩ := mem_matching.1 (List.mem_filter.1 mem).1
          exact fair ⟨⟨c, key, e, rfl, there, behind, front⟩, key', text, read, starts⟩
        exact ⟨by simp [none_due], by simp [none_due]⟩
  · rintro ⟨⟨c, key, e, rfl, there, behind, front⟩, -⟩
    exact scan_of_stray there behind front

/-! ## A cursor that misleads -/

/-- A store with the mark of a booking, whose key is in front of those of holds, and a hold. -/
def straying : Store := (({} : Store).put 0 "booked:2" "a" 120000).put 0 "hold:1" "x" 120000

/-- From a cursor in front of both, a scan for holds comes to nothing. -/
theorem straying_misled : straying.Misled 0 "hold:" (some "") ∧
    straying.scan 0 "hold:" (some "") 10 = {} := by
  have misled : straying.Misled 0 "hold:" (some "") :=
    ⟨⟨"", "booked:2", ⟨"a", 120000, 1⟩, rfl, by decide +kernel, by decide +kernel,
        by decide +kernel⟩,
      "hold:1", "x", by decide +kernel, by decide +kernel⟩
  exact ⟨misled, (scan_keeps_iff 0 straying "hold:" (some "") 10).2 misled⟩

/-- A page can be empty, and say that nothing follows, where an entry is due. -/
theorem due_entry_withheld : ¬ ∀ (now : Nat) (s : Store) (start : String) (cursor : Option String)
    (count : Nat), (s.scan now start cursor count).Keeps (s.due now start cursor) count := by
  intro always
  have entries := (always 0 straying "hold:" (some "") 10).entries
  exact absurd entries (by decide +kernel)

end Store
end Holdfast
