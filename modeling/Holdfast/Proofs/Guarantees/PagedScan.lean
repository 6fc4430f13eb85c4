import Holdfast.Proofs.Store.Moments
import Holdfast.Proofs.Store.Pages

/-!
# Scans page by page

A scan that goes through a store in pages holds on to nothing but the key that the last page named for
the next one. Between two pages there may be any requests to the store, and time may pass. Still no key
comes twice, the keys come in order, and a key that is live whenever a page is taken is not missed
(`Sweeps`, `sweeps_pages`). If nothing changes between the pages, they have just the live entries of the
scan, and there are no more pages than it takes to have them all.

What one page does for the scan is said in `Turns`; here it is carried through all the pages.
-/

namespace Holdfast.Store

/-- The page of a scan that is taken at the moment. -/
def Moment.page (m : Moment) (start : String) (count : Nat) (cursor : Option String) : Page :=
  m.store.scan m.clock start cursor count

/-- **The pages of a scan**, each with the moment at which it was taken: the first one goes on behind the
cursor, and every other one behind the key that the one before it named, after some things happened.
They end with a page that names no key, or with the schedule of what happens. -/
def pages (start : String) (count : Nat) (m : Moment) (cursor : Option String) :
    List (List Happening) → List (Moment × Page)
  | [] => [(m, m.page start count cursor)]
  | between :: later =>
    (m, m.page start count cursor) ::
      match (m.page start count cursor).next with
      | none => []
      | some last => pages start count (m.after between) (some last) later

/-- What is on some pages, one page after the other. -/
def gathered (taken : List (Moment × Page)) : List (String × String) :=
  taken.flatMap (·.2.entries)

/-- One of the pages is the end of the scan. -/
def Ended (taken : List (Moment × Page)) : Prop := ∃ p ∈ taken, p.2.next = none

section taken

variable (p : Moment × Page) (taken : List (Moment × Page))

@[simp] theorem gathered_nil : gathered [] = [] := rfl

@[simp] theorem gathered_cons : gathered (p :: taken) = p.2.entries ++ gathered taken := by
  simp [gathered]

@[simp] theorem ended_singleton : Ended [p] ↔ p.2.next = none := by simp [Ended]

/-- A page that names a key is not the end. -/
theorem ended_cons_iff {p : Moment × Page} {key : String} (next : p.2.next = some key) :
    Ended (p :: taken) ↔ Ended taken := by
  simp [Ended, next]

end taken

variable {start : String} {count : Nat} {m : Moment} {cursor : Option String}
  {schedule : List (List Happening)}

/-! ## Through all the pages -/

/-- **What is so of the last page**, and of one more page in front of others of which it is so, **is so
of all pages.** -/
theorem pages_induction {motive : Moment → Option String → List (List Happening) →
      List (Moment × Page) → Prop}
    (last : ∀ m cursor schedule, Begins start cursor →
      schedule = [] ∨ (m.page start count cursor).next = none →
      motive m cursor schedule [(m, m.page start count cursor)])
    (more : ∀ m cursor between later key, Begins start cursor →
      (m.page start count cursor).next = some key →
      motive (m.after between) (some key) later (pages start count (m.after between) (some key) later) →
      motive m cursor (between :: later) ((m, m.page start count cursor) ::
        pages start count (m.after between) (some key) later))
    (begins : Begins start cursor) :
    motive m cursor schedule (pages start count m cursor schedule) := by
  induction schedule generalizing m cursor with
  | nil => exact last m cursor [] begins (.inl rfl)
  | cons between later ih =>
    rw [pages]
    cases next : (m.page start count cursor).next with
    | none => exact last m cursor _ begins (.inr next)
    | some key =>
      have turns := turns_scan (begins.clear m.store) m.clock count
      have begins' : Begins start (some key) := by
        rintro _ ⟨⟩
        exact (turns.next key next).1
      exact more m cursor between later key begins next (ih begins')

/-- Each page does what a page does. -/
theorem turns_pages (begins : Begins start cursor) :
    ∀ p ∈ pages start count m cursor schedule, ∃ cursor',
      Turns p.1.clock p.1.store start cursor' count p.2 := by
  apply pages_induction (motive := fun _ _ _ taken => ∀ p ∈ taken, ∃ cursor',
    Turns p.1.clock p.1.store start cursor' count p.2) ?last ?more begins
  case last =>
    intro m cursor _ begins _
    simp only [List.forall_mem_singleton]
    exact ⟨cursor, turns_scan (begins.clear m.store) m.clock count⟩
  case more =>
    intro m cursor _ _ _ begins _ ih
    exact List.forall_mem_cons.2 ⟨⟨cursor, turns_scan (begins.clear m.store) m.clock count⟩, ih⟩

/-- The keys on the pages come in order, and all of them are behind the cursor. -/
theorem sorted_pages (begins : Begins start cursor) (count : Nat) (m : Moment)
    (schedule : List (List Happening)) :
    (gathered (pages start count m cursor schedule)).Pairwise (·.1 < ·.1) ∧
      ∀ e ∈ gathered (pages start count m cursor schedule), isAfter start cursor e.1 = true := by
  apply pages_induction (motive := fun _ cursor _ taken => (gathered taken).Pairwise (·.1 < ·.1) ∧
    ∀ e ∈ gathered taken, isAfter start cursor e.1 = true) ?last ?more begins
  case last =>
    intro m cursor _ begins _
    have turns := turns_scan (begins.clear m.store) m.clock count
    simp only [gathered_cons, gathered_nil, List.append_nil]
    exact ⟨turns.sorted, fun e mem => (turns.live e mem).2.2⟩
  case more =>
    intro m cursor between later key begins next ⟨sorted, behind⟩
    have turns := turns_scan (begins.clear m.store) m.clock count
    obtain ⟨-, after_cursor, in_front⟩ := turns.next key next
    simp only [gathered_cons]
    constructor
    · apply List.pairwise_append.2 ⟨turns.sorted, sorted, ?_⟩
      intro e mem e' mem'
      exact KeyOrder.lt_of_not_lt_of_lt (in_front e mem) (of_decide_eq_true (behind e' mem'))
    · intro e mem
      rcases List.mem_append.1 mem with here | there
      · exact (turns.live e here).2.2
      · exact isAfter_of_lt after_cursor (of_decide_eq_true (behind e there))

/-- What is live behind the cursor whenever a page is taken is on one of the pages, once the scan has
ended. -/
theorem mem_gathered_pages (begins : Begins start cursor)
    (ended : Ended (pages start count m cursor schedule)) {key : String}
    (starts : startsWith start key = true) (behind : isAfter start cursor key = true)
    (live : ∀ p ∈ pages start count m cursor schedule, ∃ text,
      p.1.store.read? p.1.clock key = some text) :
    ∃ text, (key, text) ∈ gathered (pages start count m cursor schedule) := by
  revert ended behind live
  apply pages_induction (motive := fun _ cursor _ taken => Ended taken →
    isAfter start cursor key = true →
    (∀ p ∈ taken, ∃ text, p.1.store.read? p.1.clock key = some text) →
    ∃ text, (key, text) ∈ gathered taken) ?last ?more begins
  case last =>
    intro m cursor _ begins _ ended behind live
    obtain ⟨text, read⟩ := live _ List.mem_cons_self
    rcases (turns_scan (begins.clear m.store) m.clock count).passes_none key text read starts behind with
      here | ⟨last, named, -⟩
    · exact ⟨text, by simpa [Moment.page] using here⟩
    · rw [ended_singleton, Moment.page, named] at ended
      cases ended
  case more =>
    intro m cursor between later last begins next ih ended behind live
    obtain ⟨⟨text, read⟩, live_later⟩ := List.forall_mem_cons.1 live
    simp only [gathered_cons, List.mem_append]
    rcases (turns_scan (begins.clear m.store) m.clock count).passes_none key text read starts behind with
      here | ⟨last', named, lt⟩
    · exact ⟨text, .inl here⟩
    · obtain rfl : last' = last := Option.some.inj (named.symm.trans next)
      obtain ⟨text', there⟩ :=
        ih ((ended_cons_iff _ next).1 ended) (decide_eq_true lt) live_later
      exact ⟨text', .inr there⟩

/-- Where nothing changes between the pages, they have whatever the scan has ahead of it once it has
ended, and it ends with the page on which there is room for the last of it. -/
theorem gathered_still (begins : Begins start cursor) (count : Nat)
    (still : ∀ between ∈ schedule, m.after between = m) :
    (Ended (pages start count m cursor schedule) →
        gathered (pages start count m cursor schedule) = m.store.ahead m.clock start cursor) ∧
      ((m.store.ahead m.clock start cursor).length ≤ schedule.length * max count 1 →
        Ended (pages start count m cursor schedule)) := by
  revert still
  apply pages_induction (motive := fun m cursor schedule taken =>
    (∀ between ∈ schedule, m.after between = m) →
    (Ended taken → gathered taken = m.store.ahead m.clock start cursor) ∧
      ((m.store.ahead m.clock start cursor).length ≤ schedule.length * max count 1 →
        Ended taken)) ?last ?more begins
  case last =>
    intro m cursor schedule begins finished _
    have entries := entries_scan (begins.clear m.store) m.clock count
    have left := scan_next (begins.clear m.store) m.clock count
    simp only [ended_singleton, gathered_cons, gathered_nil, List.append_nil, Moment.page]
      at finished ⊢
    constructor
    · intro ended
      simp only [ended] at left
      rw [entries]
      exact List.take_of_length_le (List.drop_eq_nil_iff.1 left)
    · intro few
      rcases finished with rfl | ended
      · cases next : (m.store.scan m.clock start cursor count).next with
        | none => rfl
        | some key =>
          simp only [next, List.length_nil, Nat.zero_mul] at left few
          have one : 1 ≤ max count 1 := Nat.le_max_right count 1
          omega
      · exact ended
  case more =>
    intro m cursor between later key begins next ih still
    obtain ⟨same, still_later⟩ := List.forall_mem_cons.1 still
    have entries := entries_scan (begins.clear m.store) m.clock count
    have left := scan_next (begins.clear m.store) m.clock count
    rw [Moment.page] at next
    simp only [next] at left
    rw [same, left.2.1] at ih
    obtain ⟨whole, ends⟩ := ih still_later
    rw [same, ended_cons_iff _ next, gathered_cons]
    constructor
    · intro ended
      rw [whole ended, Moment.page, entries, List.take_append_drop]
    · intro few
      apply ends
      rw [List.length_drop]
      rw [List.length_cons, Nat.succ_mul] at few
      omega

/-! ## The guarantee -/

/-- **What the pages of a scan come to** that begins without a cursor, whatever happens between them. -/
structure Sweeps (start : String) (count : Nat) (m : Moment) (schedule : List (List Happening)) :
    Prop where
  /-- The keys come in order. -/
  sorted : ((gathered (pages start count m none schedule)).map (·.1)).Pairwise (· < ·)
  /-- No key comes twice. -/
  distinct : ((gathered (pages start count m none schedule)).map (·.1)).Nodup
  /-- A page has no more entries than it may, each of them with a key of the scan and live when the
  page was taken. -/
  page : ∀ p ∈ pages start count m none schedule, p.2.entries.length ≤ max count 1 ∧
    ∀ e ∈ p.2.entries, startsWith start e.1 = true ∧ p.1.store.read? p.1.clock e.1 = some e.2
  /-- If the scan has ended, a key of the scan is on one of the pages if it was live whenever one was
  taken, and all the more if it was live all the time. -/
  complete : Ended (pages start count m none schedule) → ∀ key, startsWith start key = true →
    (∀ p ∈ pages start count m none schedule, ∃ text,
      p.1.store.read? p.1.clock key = some text) →
    key ∈ (gathered (pages start count m none schedule)).map (·.1)
  /-- If nothing changes, the scan ends, as soon as the pages have room for all that is live, and it
  has given just that. -/
  still : (∀ between ∈ schedule, m.after between = m) →
    ((m.store.matching m.clock start).length ≤ schedule.length * max count 1 →
        Ended (pages start count m none schedule)) ∧
      (Ended (pages start count m none schedule) →
        gathered (pages start count m none schedule) = m.store.matching m.clock start)

/-- **Scans page by page are in order and complete**, at any moment of any store, and whatever happens to
it between the pages. -/
theorem sweeps_pages (start : String) (count : Nat) (m : Moment)
    (schedule : List (List Happening)) : Sweeps start count m schedule := by
  have begins := begins_none start
  have sorted := List.pairwise_map.2 (sorted_pages begins count m schedule).1
  refine ⟨sorted, sorted.imp KeyOrder.ne_of_lt, ?page, ?complete, ?still⟩
  case page =>
    intro p mem
    obtain ⟨cursor, turns⟩ := turns_pages begins p mem
    refine ⟨turns.few, ?_⟩
    intro e there
    obtain ⟨read, starts, -⟩ := turns.live e there
    exact ⟨starts, read⟩
  case complete =>
    intro ended key starts live
    obtain ⟨text, there⟩ := mem_gathered_pages begins ended starts (isAfter_none starts) live
    exact List.mem_map.2 ⟨_, there, rfl⟩
  case still =>
    intro still
    obtain ⟨whole, ends⟩ := gathered_still begins count still
    rw [ahead_none] at whole ends
    exact ⟨ends, whole⟩

/-- A scan goes on behind a key that is gone, and finds what came in behind it. -/
example : gathered (pages "hold:" 1
    { store := (({} : Store).put 0 "hold:1" "a" 9).put 0 "hold:3" "c" 9 } none
    [[.request (.delete "hold:1"), .request (.refresh "hold:2" "b" 9)], [.wait 8], []]) =
      [("hold:1", "a"), ("hold:2", "b"), ("hold:3", "c")] := by decide +kernel

end Holdfast.Store
