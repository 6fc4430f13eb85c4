import Holdfast.Proofs.Conduct.Decoding
import Holdfast.Proofs.Conduct.Passage
import Holdfast.Proofs.Store.Pages

/-!
# Going through a listing

A listing of holds takes pages of a scan, and asks for each entry on a page how much time it has left;
each of these is a move of its own, and the store may change in between. What its rows show is said of
one page first (`lists_of_page`) and then of all pages behind a cursor (`lists_of_passes`).

The keys of a page come in order, and what is live behind the cursor all the time is on the page or
behind the key that it names (`Store.Turns`). Of what is on the page, a row is missing only if its slot
was found without a hold later (`passes_rowsOf`).
-/

namespace Holdfast.Reservation.Run

variable {ρ : Run} {i a b k m n : Nat} {row : HoldRow} {rows : List HoldRow} {slot : SlotId}
  {cursor : Option String}

/-- **A row shows a hold that there was** between two moves: its owner and its day are those of a hold
on the slot at some move, and its time is what a hold on the slot had left at a later one. -/
inductive Showed (ρ : Run) (b n : Nat) (row : HoldRow) : Prop where
  | intro {a z ttl : Nat} {hold : HoldRecord} (low : b ≤ a) (lt : a < z) (high : z < n)
    (held : ρ.Holds a row.slot hold) (owner : hold.owner = row.owner) (day : hold.day = row.day)
    (left : (ρ.store z).remaining? (ρ.clock z) (Key.hold row.slot) = some ttl)
    (time : row.ttl = secondsUp ttl) : Showed ρ b n row

/-- The slot has some hold at every move from one on until before another. -/
def HeldThrough (ρ : Run) (b n : Nat) (slot : SlotId) : Prop :=
  ∀ k, b ≤ k → k < n → ¬ ρ.Unheld k slot

theorem Showed.mono {b' n' : Nat} (showed : ρ.Showed b n row) (low : b' ≤ b) (high : n ≤ n') :
    ρ.Showed b' n' row := by
  obtain ⟨low', lt, high', held, owner, day, left, time⟩ := showed
  exact ⟨Nat.le_trans low low', lt, Nat.lt_of_lt_of_le high' high, held, owner, day, left, time⟩

theorem HeldThrough.mono {b' n' : Nat} (held : ρ.HeldThrough b n slot) (low : b ≤ b')
    (high : n' ≤ n) : ρ.HeldThrough b' n' slot :=
  fun k low' high' => held k (Nat.le_trans low low') (Nat.lt_of_lt_of_le high' high)

/-- The keys of some rows, as their holds are stored. -/
def keysOf (rows : List HoldRow) : List String := rows.map fun row => Key.hold row.slot

@[simp] theorem mem_keysOf : Key.hold slot ∈ keysOf rows ↔ ∃ row ∈ rows, row.slot = slot := by
  simp only [keysOf, List.mem_map]
  constructor
  · rintro ⟨row, mem, same⟩
    exact ⟨row, mem, Key.hold_inj same⟩
  · rintro ⟨row, mem, rfl⟩
    exact ⟨row, mem, rfl⟩

/-! ## The rows of a page -/

/-- **What the rows of a page show**: they come in the order of the page, each shows a hold, and each
slot on the page that was held all the time has one. -/
theorem passes_rowsOf {entries : List (String × String)}
    (read : ∀ e ∈ entries, ρ.read? a e.1 = some e.2 ∧ Store.startsWith Key.holdStart e.1 = true)
    (before : a < b) (passes : ρ.Passes i b n (rowsOf entries) (.ok rows)) :
    (keysOf rows).Sublist (entries.map (·.1)) ∧ (∀ row ∈ rows, ρ.Showed a n row) ∧
      ∀ slot, Key.hold slot ∈ entries.map (·.1) → ρ.HeldThrough b n slot →
        ∃ row ∈ rows, row.slot = slot := by
  induction entries generalizing b n rows with
  | nil =>
    obtain rfl := passes_done passes
    simp [keysOf]
  | cons entry rest ih =>
    obtain ⟨⟨there, starts⟩, read_rest⟩ := List.forall_mem_cons.1 read
    obtain ⟨key, text⟩ := entry
    obtain ⟨hold, rfl, rfl⟩ := (written_of_read there).hold_of_isHold starts
    have held : ρ.Holds a hold.slot hold := by
      rw [Holds, there, Option.bind_some, hold.decode?_encode]
    rw [rowsOf, HoldRecord.stored, hold.decode?_encode] at passes
    obtain ⟨m, left, asked, passes⟩ := passes_bind_ok passes
    obtain ⟨z, low, lt, eq⟩ := passes_remaining asked
    have within : b ≤ z ∧ z < n := ⟨low, Nat.lt_of_lt_of_le lt passes.1⟩
    have later_on : b ≤ m := Nat.le_of_lt (Nat.lt_of_le_of_lt low lt)
    have later : a < m := Nat.lt_of_lt_of_le before later_on
    cases left with
    | none =>
      obtain ⟨order, showed, complete⟩ := ih read_rest later passes
      refine ⟨order.trans (List.sublist_cons_self _ _), showed, ?_⟩
      intro slot mem through
      rw [List.map_cons, List.mem_cons] at mem
      rcases mem with same | there
      · obtain rfl := Key.hold_inj same
        exact absurd (unheld_of_remaining eq.symm) (through z within.1 within.2)
      · exact complete slot there (through.mono later_on (Nat.le_refl n))
    | some ttl =>
      obtain ⟨m', rows', more, last⟩ := passes_bind_ok passes
      obtain rfl := passes_done last
      obtain ⟨order, showed, complete⟩ := ih read_rest later more
      refine ⟨order.cons_cons _, ?_, ?_⟩
      · intro row mem
        rcases List.mem_cons.1 mem with rfl | mem
        · exact ⟨Nat.le_refl a, Nat.lt_of_lt_of_le before low, within.2, held, rfl, rfl, eq.symm, rfl⟩
        · exact (showed row mem).mono (Nat.le_refl a) last.1
      · intro slot mem through
        rw [List.map_cons, List.mem_cons] at mem
        rcases mem with same | there
        · exact ⟨_, List.mem_cons_self, (Key.hold_inj same).symm⟩
        · obtain ⟨row, mem, same⟩ := complete slot there
            (through.mono later_on last.1)
          exact ⟨row, List.mem_cons_of_mem _ mem, same⟩

/-! ## The rows of all pages -/

/-- **What is listed between two moves** of the keys behind a cursor and up to the next one, if there is
one: holds that there were, in the order of the keys, and all slots that were held all the time. -/
structure Lists (ρ : Run) (cursor next : Option String) (b n : Nat) (rows : List HoldRow) : Prop where
  sorted : (keysOf rows).Pairwise (· < ·)
  behind : ∀ key ∈ keysOf rows, Store.isAfter Key.holdStart cursor key = true
  showed : ∀ row ∈ rows, ρ.Showed b n row
  complete : ∀ slot, Store.isAfter Key.holdStart cursor (Key.hold slot) = true →
    ρ.HeldThrough b n slot →
    Key.hold slot ∈ keysOf rows ∨ ∃ last, next = some last ∧ last < Key.hold slot
  next : ∀ last, next = some last → Store.isAfter Key.holdStart cursor last = true ∧
    ∀ key ∈ keysOf rows, ¬ last < key

/-- What is listed until one move is listed until any later one. -/
theorem Lists.mono {next : Option String} {n' : Nat} (lists : ρ.Lists cursor next b n rows)
    (high : n ≤ n') : ρ.Lists cursor next b n' rows :=
  { lists with
    showed := fun row mem => (lists.showed row mem).mono (Nat.le_refl b) high
    complete := fun slot behind through =>
      lists.complete slot behind (through.mono (Nat.le_refl b) high) }

/-- One page and what is behind it. -/
theorem Lists.append {rows' : List HoldRow} {last : String} (first : ρ.Lists cursor (some last) b m rows)
    (rest : ρ.Lists (some last) none m n rows') (low : b ≤ m) (high : m ≤ n) :
    ρ.Lists cursor none b n (rows ++ rows') := by
  obtain ⟨after_cursor, in_front⟩ := first.next last rfl
  have keys : keysOf (rows ++ rows') = keysOf rows ++ keysOf rows' := by simp [keysOf]
  refine ⟨?sorted, ?behind, ?showed, ?complete, nofun⟩
  case sorted =>
    rw [keys]
    apply List.pairwise_append.2 ⟨first.sorted, rest.sorted, ?_⟩
    intro key mem key' mem'
    exact KeyOrder.lt_of_not_lt_of_lt (in_front key mem) (of_decide_eq_true (rest.behind key' mem'))
  case behind =>
    intro key mem
    rw [keys] at mem
    rcases List.mem_append.1 mem with here | there
    · exact first.behind key here
    · exact Store.isAfter_of_lt after_cursor (of_decide_eq_true (rest.behind key there))
  case showed =>
    intro row mem
    rcases List.mem_append.1 mem with here | there
    · exact (first.showed row here).mono (Nat.le_refl b) high
    · exact (rest.showed row there).mono low (Nat.le_refl n)
  case complete =>
    intro slot behind through
    left
    rw [keys, List.mem_append]
    rcases first.complete slot behind (through.mono (Nat.le_refl b) high) with here | ⟨_, ⟨⟩, lt⟩
    · exact .inl here
    · rcases rest.complete slot (decide_eq_true lt) (through.mono low (Nat.le_refl n)) with
        there | ⟨_, ⟨⟩, -⟩
      exact .inr there

/-- What is listed of one page. -/
theorem lists_of_page {page : Page}
    (turns : Store.Turns (ρ.clock k) (ρ.store k) Key.holdStart cursor pageSize page)
    (low : b ≤ k) (lt : k < m) (passes : ρ.Passes i m n (rowsOf page.entries) (.ok rows)) :
    ρ.Lists cursor page.next b n rows := by
  have read : ∀ e ∈ page.entries, ρ.read? k e.1 = some e.2 ∧
      Store.startsWith Key.holdStart e.1 = true := by
    intro e mem
    obtain ⟨read, starts, -⟩ := turns.live e mem
    exact ⟨read, starts⟩
  obtain ⟨order, showed, complete⟩ := passes_rowsOf read lt passes
  have on_page : ∀ key ∈ keysOf rows, ∃ e ∈ page.entries, e.1 = key :=
    fun key mem => List.mem_map.1 (order.mem mem)
  refine ⟨?sorted, ?behind, ?showed, ?complete, ?next⟩
  case sorted => exact (List.pairwise_map.2 turns.sorted).sublist order
  case behind =>
    intro key mem
    obtain ⟨e, there, rfl⟩ := on_page key mem
    exact (turns.live e there).2.2
  case showed => exact fun row mem => (showed row mem).mono low (Nat.le_refl n)
  case complete =>
    intro slot behind through
    have now : ρ.read? k (Key.hold slot) ≠ none := through k low (Nat.lt_of_lt_of_le lt passes.1)
    obtain ⟨text, there⟩ := Option.ne_none_iff_exists'.1 now
    rcases turns.passes_none _ text there (Key.isHold_hold slot) behind with here | beyond
    · left
      have through' := through.mono (Nat.le_trans low (Nat.le_of_lt lt)) (Nat.le_refl n)
      exact mem_keysOf.2 (complete slot (List.mem_map.2 ⟨_, here, rfl⟩) through')
    · exact .inr beyond
  case next =>
    intro last named
    obtain ⟨-, after_cursor, in_front⟩ := turns.next last named
    refine ⟨after_cursor, ?_⟩
    intro key mem
    obtain ⟨e, there, rfl⟩ := on_page key mem
    exact in_front e there

/-- **What is listed behind a cursor**, page by page. -/
theorem lists_of_passes {pages : Nat} (begins : Store.Begins Key.holdStart cursor)
    (passes : ρ.Passes i b n (rowsFrom cursor pages) (.ok rows)) :
    ρ.Lists cursor none b n rows := by
  induction pages generalizing cursor b n rows with
  | zero => cases (Program.ends_fail.1 passes.2).2
  | succ pages ih =>
    obtain ⟨m₁, page, asked, passes⟩ := passes_bind_ok passes
    obtain ⟨k, low, lt, eq⟩ := passes_query (fun _ _ eq => by cases eq) asked
    have turns : Store.Turns (ρ.clock k) (ρ.store k) Key.holdStart cursor pageSize page :=
      eq ▸ Store.turns_scan (begins.clear (ρ.store k)) (ρ.clock k) pageSize
    obtain ⟨m₂, first, rows_first, passes⟩ := passes_bind_ok passes
    have listed := lists_of_page turns low lt rows_first
    cases next : page.next with
    | none =>
      simp only [next] at passes listed
      obtain rfl := passes_done passes
      exact listed.mono passes.1
    | some last =>
      simp only [next] at passes listed
      obtain ⟨m₃, rest, rows_rest, done⟩ := passes_bind_ok passes
      obtain rfl := passes_done done
      have begins' : Store.Begins Key.holdStart (some last) := by
        rintro _ ⟨⟩
        exact (turns.next last next).1
      exact listed.append ((ih begins' rows_rest).mono done.1)
        (Nat.le_trans low (Nat.le_trans (Nat.le_of_lt lt) rows_first.1))
        (Nat.le_trans rows_rest.1 done.1)

end Holdfast.Reservation.Run
