import Holdfast.Proofs.Conduct.Contents

/-!
# One hold per holder

Where a holder may hold one slot only, the holder's entry stands for its hold: an acquire of another
slot rests on the entry, so it cannot commit while the entry names the slot of a live hold. What
keeps holders to one hold is therefore that every live hold is named by its owner's entry for as
long as it lasts (`Vouched`).

A release breaks this. When it finds no hold it clears the entry that still names the slot, in a
transaction that rests on the entry and not on the hold. If the holder acquires the slot between the
two, the entry of a live hold is taken away (`Strips`), and the next acquire of another slot gives
the holder a second hold. Nothing else leads there.

* `doubled_iff_stripped`: a holder gets two holds exactly if its hold is stripped of its entry and,
  while it stands without one, an acquire of another slot commits.
* `doubled_after_release`: a run in which that happens.
-/

namespace Holdfast.Reservation.Run

variable {ρ : Run} {n n₀ ttl deadline : Nat} {slot slot' : SlotId} {holder : HolderId}
  {claimant : Claimant} {w : Watch} {hold hold' : HoldRecord} {e : Entry}

/-- The holder owns a live hold on the slot. -/
def HeldBy (ρ : Run) (n : Nat) (slot : SlotId) (holder : HolderId) : Prop :=
  ∃ hold, ρ.Holds n slot hold ∧ hold.owner = holder

/-- Some holder owns live holds on two slots. -/
def Doubled (ρ : Run) (n : Nat) : Prop :=
  ∃ slot slot' holder, slot ≠ slot' ∧ ρ.HeldBy n slot holder ∧ ρ.HeldBy n slot' holder

/-- **A release takes away the entry of a live hold**: with the next move a call that releases the
slot for the holder deletes the holder's entry and nothing else, though the entry names the slot and
the holder owns a live hold on it. -/
structure Strips (ρ : Run) (n : Nat) (slot : SlotId) (holder : HolderId) : Prop where
  released : ∃ i c claimant w, ρ.call? n i = some c ∧ c.Releases slot claimant ∧
    claimant.holder = holder ∧ ρ.Commits n i w [.delete (Key.holder holder)]
  named : ρ.Names n (Key.holder holder) slot
  held : ρ.HeldBy n slot holder

/-- The holder's hold on the slot was stripped of its entry and stands without one since. -/
def Stripped (ρ : Run) (n : Nat) (slot : SlotId) (holder : HolderId) : Prop :=
  ∃ k < n, ρ.Strips k slot holder ∧
    ∀ m, k < m → m ≤ n → ρ.HeldBy m slot holder ∧ ρ.read? m (Key.holder holder) = none

/-- The holder's entry names the slot and lasts until the deadline. -/
def NamedUntil (ρ : Run) (n : Nat) (holder : HolderId) (slot : SlotId) (deadline : Nat) : Prop :=
  ∃ x, ρ.live? n (Key.holder holder) = some x ∧ x.value = SlotId.text slot ∧ deadline ≤ x.deadline

/-- **Every live hold is named by its owner's entry for as long as it lasts**, unless it was
stripped of it. -/
def Vouched (ρ : Run) (n : Nat) : Prop :=
  ∀ slot e hold, ρ.live? n (Key.hold slot) = some e → HoldRecord.decode? e.value = some hold →
    ρ.NamedUntil n hold.owner slot e.deadline ∨ ρ.Stripped n slot hold.owner

/-! ## Live entries -/

/-- An entry with the text of a slot names the slot. -/
theorem names_of_live {key : String} {x : Entry} (live : ρ.live? n key = some x)
    (value : x.value = SlotId.text slot) : ρ.Names n key slot := by
  have there : ρ.read? n key = some (SlotId.text slot) :=
    Option.map_eq_some_iff.2 ⟨x, live, value⟩
  rw [Names, there]
  exact SlotId.read?_text slot

/-! ## What an acquire leaves behind -/

namespace Places

/-- What is live after an acquire. -/
theorem live?_succ (places : ρ.Places n slot claimant hold ttl) (key : String) :
    ρ.live? (n + 1) key =
      ((placing ρ.policy hold slot claimant.holder ttl).foldl (Store.apply (ρ.clock n))
        (ρ.store n)).live? (ρ.clock n) key := by
  obtain ⟨-, -, -, -, commits, -⟩ := places
  exact (live?_of_commits commits key).2

/-- An acquire writes a hold of its holder. -/
theorem owner (places : ρ.Places n slot claimant hold ttl) : hold.owner = claimant.holder := by
  obtain ⟨-, -, -, -, -, grounds⟩ := places
  cases grounds.decided with
  | renewed old held own eq => rw [eq]; exact own
  | new unheld alone eq => rw [eq]; rfl

/-- An acquire leaves other slots alone. -/
theorem live?_other (places : ρ.Places n slot claimant hold ttl) (ne : slot ≠ slot') :
    ρ.live? (n + 1) (Key.hold slot') = ρ.live? n (Key.hold slot') :=
  (places.live?_succ _).trans (Store.live?_writes_ne (misses_placing_hold ne))

/-- An acquire of another slot leaves the holder's hold alone. -/
theorem heldBy_other (places : ρ.Places n slot claimant hold ttl) (ne : slot ≠ slot') :
    ρ.HeldBy (n + 1) slot' holder ↔ ρ.HeldBy n slot' holder := by
  simp only [HeldBy, holds_iff_live, places.live?_other ne]

/-- A hold that is placed for some time is live. -/
theorem heldBy (places : ρ.Places n slot claimant hold ttl) (lasts : 0 < ttl) :
    ρ.HeldBy (n + 1) slot claimant.holder := by
  have live : ρ.live? (n + 1) (Key.hold slot) =
      some ⟨hold.encode, ρ.clock n + ttl, (ρ.store n).writes + 1⟩ := by
    rw [places.live?_succ]
    exact live?_placing_hold.2 ⟨rfl, by omega⟩
  exact ⟨hold, holds_iff_live.2 ⟨_, live, hold.decode?_encode⟩, places.owner⟩

/-- A hold that is placed is named by its holder's entry for as long as it lasts. -/
theorem namedUntil (single : ρ.policy.singleHold = true)
    (places : ρ.Places n slot claimant hold ttl)
    (live : ρ.live? (n + 1) (Key.hold slot) = some e) :
    ρ.NamedUntil (n + 1) claimant.holder slot e.deadline := by
  rw [places.live?_succ] at live
  obtain ⟨rfl, early⟩ := live?_placing_hold.1 live
  refine ⟨⟨SlotId.text slot, ρ.clock n + ttl, (ρ.store n).writes + 2⟩, ?_, rfl, Nat.le_refl _⟩
  rw [places.live?_succ]
  exact (live?_placing_holder single).2 ⟨rfl, early⟩

/-- If an entry of the holder is live after an acquire, so is the hold. -/
theorem lasts (single : ρ.policy.singleHold = true) (places : ρ.Places n slot claimant hold ttl)
    (live : ρ.live? (n + 1) (Key.holder claimant.holder) = some e) : 0 < ttl := by
  rw [places.live?_succ] at live
  have early := ((live?_placing_holder single).1 live).2
  omega

end Places

/-! ## No acquire of another slot -/

/-- The entry that a committed acquire rests on has named the same slot since the acquire watched
it. -/
theorem Placement.names (single : ρ.policy.singleHold = true)
    (grounds : ρ.Placement n₀ n slot' claimant w hold')
    (agrees : (ρ.store n).agrees (ρ.clock n) w = true)
    (named : ρ.NamedUntil n claimant.holder slot deadline) {m : Nat} (low : grounds.unfenced ≤ m)
    (high : m ≤ n) : ρ.Names m (Key.holder claimant.holder) slot := by
  obtain ⟨x, entry, value, -⟩ := named
  have covers := grounds.covers (Key.holder claimant.holder) (by simp [watchedKeys, single])
  exact names_of_live (live?_of_covers (covers.mono low) high agrees entry) value

/-- A holder that was found alone while its entry named a slot with a live hold of its own was found
on that slot. -/
theorem Alone.slot_eq (single : ρ.policy.singleHold = true) {looked : Nat}
    (alone : ρ.Alone slot' holder w looked n)
    (agrees : (ρ.store n).agrees (ρ.clock n) w = true) (held : ρ.HeldBy n slot holder)
    (named : ∀ m, looked ≤ m → m ≤ n → ρ.Names m (Key.holder holder) slot) : slot = slot' := by
  cases alone with
  | many many =>
    rw [single] at many
    cases many
  | unnamed j low high only => exact only slot (named j (by omega) (by omega))
  | freed j k other low mid high names covers gone =>
    -- The hold that the acquire found gone is the one that is live.
    obtain rfl := Option.some.inj ((named j (by omega) (by omega)).symm.trans names)
    obtain ⟨hold, holds, own⟩ := held
    obtain ⟨e, live, decoded⟩ := holds_iff_live.1 holds
    have before := live?_of_covers covers (by omega) agrees live
    exact absurd own (gone hold (holds_iff_live.2 ⟨e, before, decoded⟩))

/-- **An acquire commits only on the slot that the holder's entry names**, if the holder owns a live
hold on that slot. -/
theorem Placement.slot_eq (single : ρ.policy.singleHold = true) (earlier : ∀ m ≤ n, ρ.Vouched m)
    (grounds : ρ.Placement n₀ n slot' claimant w hold')
    (agrees : (ρ.store n).agrees (ρ.clock n) w = true)
    (held : ρ.HeldBy n slot claimant.holder)
    (named : ρ.NamedUntil n claimant.holder slot deadline) : slot = slot' := by
  have order₁ := grounds.unfenced_lt
  have order₂ := grounds.looked_lt
  have names : ∀ m, grounds.looked ≤ m → m ≤ n → ρ.Names m (Key.holder claimant.holder) slot :=
    fun m low high => grounds.names single agrees named (by omega) high
  have isSlot := grounds.isSlot
  cases grounds.decided with
  | renewed old held' own eq =>
    have there := names grounds.looked (Nat.le_refl _) (by omega)
    rw [← own] at there
    rw [isSlot] at held'
    obtain ⟨e', live', decoded⟩ := holds_iff_live.1 held'
    rcases earlier grounds.looked (by omega) slot' e' old live' decoded with
      ⟨x, entry, value, -⟩ | ⟨k, before, -, bare⟩
    · exact Option.some.inj (there.symm.trans (names_of_live entry value))
    · rw [Names, (bare grounds.looked before (Nat.le_refl _)).2] at there
      cases there
  | new unheld alone eq =>
    rw [isSlot] at alone
    exact alone.slot_eq single agrees held names

/-! ## Holds keep their entries -/

/-- A named hold stays named for one more move, unless it is stripped. -/
theorem namedUntil_succ (single : ρ.policy.singleHold = true) (earlier : ∀ m ≤ n, ρ.Vouched m)
    (before : ρ.live? n (Key.hold slot) = some e)
    (live : ρ.live? (n + 1) (Key.hold slot) = some e)
    (decoded : HoldRecord.decode? e.value = some hold)
    (named : ρ.NamedUntil n hold.owner slot e.deadline) :
    ρ.NamedUntil (n + 1) hold.owner slot e.deadline ∨ ρ.Stripped (n + 1) slot hold.owner := by
  have held : ρ.HeldBy n slot hold.owner := ⟨hold, holds_iff_live.2 ⟨e, before, decoded⟩, rfl⟩
  have held' : ρ.HeldBy (n + 1) slot hold.owner :=
    ⟨hold, holds_iff_live.2 ⟨e, live, decoded⟩, rfl⟩
  obtain ⟨x, entry, value, lasts⟩ := named
  cases ρ.holder_succ n hold.owner with
  | kept stays =>
    have early : ρ.clock (n + 1) < e.deadline := (Store.live?_eq_some_iff.1 live).2
    exact .inl ⟨x, (stays x).2 ⟨entry, by omega⟩, value, lasts⟩
  | @placed slot' claimant hold' ttl own places =>
    rw [← own] at entry held ⊢
    obtain ⟨-, -, -, -, commits, grounds⟩ := id places
    obtain rfl := grounds.slot_eq single earlier commits.2 held ⟨x, entry, value, lasts⟩
    exact .inl (places.namedUntil single live)
  | @removed slot' hold' n₀ i w writes commits grounds stale =>
    -- The entry names the slot whose hold is taken away, so this would be the slot.
    obtain ⟨-, b, low, high, covers, names⟩ := grounds.named _ stale
    have entry' := live?_of_covers covers (Nat.le_of_lt high) commits.2 entry
    obtain rfl := Option.some.inj ((names_of_live entry' value).symm.trans names)
    rw [slot_of_holds grounds.held, (live?_of_commits commits _).2, grounds.writes_eq,
      ← List.map_cons, Store.live?_deletes List.mem_cons_self] at live
    cases live
  | @cleared slot' claimant c i b w call releases own commits late covers names =>
    have entry' := live?_of_covers covers (Nat.le_of_lt late) commits.2 entry
    obtain rfl := Option.some.inj ((names_of_live entry' value).symm.trans names)
    refine .inr ⟨n, Nat.lt_succ_self n, ⟨⟨i, c, claimant, w, call, releases, own, commits⟩,
      names_of_live entry value, held⟩, ?_⟩
    intro m low high
    obtain rfl : m = n + 1 := by omega
    refine ⟨held', read?_eq_none_iff.2 ?_⟩
    rw [(live?_of_commits commits _).2]
    exact Store.live?_remove_self _ _ _

/-- A hold that was stripped stays without an entry for one more move, unless it is placed anew. -/
theorem stripped_succ (single : ρ.policy.singleHold = true) (sole : ¬ ρ.Doubled (n + 1))
    (live : ρ.live? (n + 1) (Key.hold slot) = some e)
    (decoded : HoldRecord.decode? e.value = some hold)
    (stripped : ρ.Stripped n slot hold.owner) :
    ρ.NamedUntil (n + 1) hold.owner slot e.deadline ∨ ρ.Stripped (n + 1) slot hold.owner := by
  have held : ρ.HeldBy (n + 1) slot hold.owner :=
    ⟨hold, holds_iff_live.2 ⟨e, live, decoded⟩, rfl⟩
  obtain ⟨k, lt, strips, bare⟩ := stripped
  have none_before : ∀ x, ρ.live? n (Key.holder hold.owner) ≠ some x := by
    simp [read?_eq_none_iff.1 (bare n lt (Nat.le_refl n)).2]
  have stays : ρ.live? (n + 1) (Key.holder hold.owner) = none →
      ρ.Stripped (n + 1) slot hold.owner := by
    intro absent
    refine ⟨k, Nat.lt_succ_of_lt lt, strips, ?_⟩
    intro m low high
    rcases Nat.le_succ_iff.1 high with le | rfl
    · exact bare m low le
    · exact ⟨held, read?_eq_none_iff.2 absent⟩
  cases entry : ρ.live? (n + 1) (Key.holder hold.owner) with
  | none => exact .inr (stays entry)
  | some x =>
    cases ρ.holder_succ n hold.owner with
    | kept kept => exact absurd ((kept x).1 entry).1 (none_before x)
    | @placed slot' claimant hold' ttl own places =>
      rw [← own] at entry held ⊢
      by_cases same : slot' = slot
      · subst same
        exact .inl (places.namedUntil single live)
      · exact absurd ⟨slot', slot, claimant.holder, same, places.heldBy (places.lasts single entry),
          held⟩ sole
    | removed commits grounds stale =>
      rw [(live?_of_commits commits _).2, grounds.writes_eq, ← List.map_cons] at entry
      exact absurd (Store.live?_of_deletes entry) (none_before x)
    | cleared call releases own commits late covers names =>
      rw [(live?_of_commits commits _).2] at entry
      exact absurd (Store.live?_of_remove entry) (none_before x)

/-- Holds keep their entries for one more move. -/
theorem vouched_succ (single : ρ.policy.singleHold = true) (earlier : ∀ m ≤ n, ρ.Vouched m)
    (sole : ¬ ρ.Doubled (n + 1)) : ρ.Vouched (n + 1) := by
  intro slot e hold live decoded
  rcases hold_succ live with before | ⟨claimant, hold', ttl, places, -, value⟩
  · rcases earlier n (Nat.le_refl n) slot e hold before decoded with named | stripped
    · exact namedUntil_succ single earlier before live decoded named
    · exact stripped_succ single sole live decoded stripped
  · rw [value, hold'.decode?_encode] at decoded
    obtain rfl := Option.some.inj decoded
    rw [places.owner]
    exact .inl (places.namedUntil single live)

/-- **As long as no holder has two holds, every live hold has its entry or was stripped of it.** -/
theorem vouched (single : ρ.policy.singleHold = true) (sole : ∀ m ≤ n, ¬ ρ.Doubled m) :
    ρ.Vouched n := by
  induction n using Nat.strongRecOn with
  | ind n ih =>
    cases n with
    | zero =>
      intro slot e hold live
      rw [live?, store, world_zero, ρ.unused] at live
      cases live
    | succ n =>
      refine vouched_succ single ?_ (sole (n + 1) (Nat.le_refl _))
      intro m le
      exact ih m (Nat.lt_succ_of_le le) fun m' le' => sole m' (by omega)

/-! ## Two holds -/

/-- The next move places a hold of the holder on the slot for some time. -/
def Acquired (ρ : Run) (n : Nat) (slot : SlotId) (holder : HolderId) : Prop :=
  ∃ claimant hold ttl, claimant.holder = holder ∧ 0 < ttl ∧ ρ.Places n slot claimant hold ttl

/-- If an acquire gives a holder a second hold, the first one was stripped. -/
theorem Places.stripped (single : ρ.policy.singleHold = true) (earlier : ∀ m ≤ n, ρ.Vouched m)
    (places : ρ.Places n slot' claimant hold' ttl) (ne : slot ≠ slot')
    (held : ρ.HeldBy (n + 1) slot claimant.holder) : ρ.Stripped n slot claimant.holder := by
  rw [places.heldBy_other ne.symm] at held
  obtain ⟨hold, holds, own⟩ := id held
  obtain ⟨e, live, decoded⟩ := holds_iff_live.1 holds
  obtain ⟨-, -, -, -, commits, grounds⟩ := places
  rcases earlier n (Nat.le_refl n) slot e hold live decoded with named | stripped
  · rw [own] at named
    exact absurd (grounds.slot_eq single earlier commits.2 held named) ne
  · rwa [own] at stripped

/-- A second hold comes with an acquire, by a holder whose hold was stripped. -/
theorem stripped_of_doubled_succ (single : ρ.policy.singleHold = true)
    (sole : ∀ m ≤ n, ¬ ρ.Doubled m) (doubled : ρ.Doubled (n + 1)) :
    ∃ slot slot' holder, slot ≠ slot' ∧ ρ.Stripped n slot holder ∧ ρ.Acquired n slot' holder := by
  have earlier : ∀ m ≤ n, ρ.Vouched m :=
    fun m le => vouched single fun m' le' => sole m' (by omega)
  -- Whichever of the two holds is new, it was acquired over the other.
  have acquired : ∀ {slot slot' holder}, slot ≠ slot' → ρ.HeldBy (n + 1) slot holder →
      ρ.HeldBy (n + 1) slot' holder → ¬ ρ.HeldBy n slot' holder →
      ρ.Stripped n slot holder ∧ ρ.Acquired n slot' holder := by
    intro slot slot' holder ne held held' new
    obtain ⟨hold', holds, own⟩ := held'
    obtain ⟨e, live, decoded⟩ := holds_iff_live.1 holds
    rcases hold_succ live with before | ⟨claimant, hold, ttl, places, lasts, value⟩
    · exact absurd ⟨hold', holds_iff_live.2 ⟨e, before, decoded⟩, own⟩ new
    · rw [value, hold.decode?_encode] at decoded
      obtain rfl := Option.some.inj decoded
      rw [places.owner] at own
      subst own
      exact ⟨places.stripped single earlier ne held, claimant, hold, ttl, rfl, lasts, places⟩
  obtain ⟨slot, slot', holder, ne, held, held'⟩ := doubled
  by_cases before : ρ.HeldBy n slot' holder
  · have new : ¬ ρ.HeldBy n slot holder :=
      fun both => sole n (Nat.le_refl n) ⟨slot, slot', holder, ne, both, before⟩
    exact ⟨slot', slot, holder, ne.symm, acquired ne.symm held' held new⟩
  · exact ⟨slot, slot', holder, ne, acquired ne held held' before⟩

/-- **When a holder gets two holds.** Where a holder may hold one slot only, some holder owns live
holds on two slots at some moment if and only if, some time before, a release took away the entry of
a holder's live hold and, while that hold stood without an entry, the holder acquired another slot.
-/
theorem doubled_iff_stripped (single : ρ.policy.singleHold = true) (n : Nat) :
    (∃ m ≤ n, ρ.Doubled m) ↔
      ∃ m < n, ∃ slot slot' holder, slot ≠ slot' ∧ ρ.Stripped m slot holder ∧
        ρ.Acquired m slot' holder := by
  constructor
  · intro some_doubled
    induction n with
    | zero =>
      obtain ⟨m, le, slot, slot', holder, -, ⟨hold, holds, -⟩, -⟩ := some_doubled
      obtain rfl := Nat.le_zero.1 le
      obtain ⟨e, live, -⟩ := holds_iff_live.1 holds
      rw [live?, store, world_zero, ρ.unused] at live
      cases live
    | succ n ih =>
      by_cases earlier : ∃ m ≤ n, ρ.Doubled m
      · obtain ⟨m, lt, rest⟩ := ih earlier
        exact ⟨m, Nat.lt_succ_of_lt lt, rest⟩
      · have sole : ∀ m ≤ n, ¬ ρ.Doubled m := fun m le doubled => earlier ⟨m, le, doubled⟩
        obtain ⟨m, le, doubled⟩ := some_doubled
        rcases Nat.le_succ_iff.1 le with le | rfl
        · exact absurd doubled (sole m le)
        · exact ⟨n, Nat.lt_succ_self n, stripped_of_doubled_succ single sole doubled⟩
  · rintro ⟨m, lt, slot, slot', holder, ne, stripped, claimant, hold, ttl, rfl, lasts, places⟩
    obtain ⟨k, before, -, stands⟩ := stripped
    have held := (stands m before (Nat.le_refl m)).1
    exact ⟨m + 1, lt, slot, slot', claimant.holder, ne, (places.heldBy_other ne.symm).2 held,
      places.heldBy lasts⟩

/-- A release finds no hold; then the holder acquires the slot, the release clears the entry that
names it, and the holder acquires another slot. -/
def stripping : Run :=
  offering [1, 2]
    ([.begin (.release 1 { holder := ⟨"a"⟩ }), .proceed 0, .proceed 0,
        .begin (.acquire 1 { holder := ⟨"a"⟩ } 120000)] ++ List.replicate 9 (.proceed 1) ++
      List.replicate 4 (.proceed 0) ++ [.begin (.acquire 2 { holder := ⟨"a"⟩ } 120000)] ++
      List.replicate 7 (.proceed 2))

/-- Whom the live hold on a slot belongs to. -/
def owner? (ρ : Run) (n : Nat) (slot : SlotId) : Option HolderId :=
  ((ρ.read? n (Key.hold slot)).bind HoldRecord.decode?).map (·.owner)

/-- A holder owns the live hold that belongs to it. -/
theorem heldBy_iff : ρ.HeldBy n slot holder ↔ ρ.owner? n slot = some holder :=
  Option.map_eq_some_iff.symm

theorem stripping_doubled : stripping.Doubled 25 :=
  ⟨1, 2, ⟨"a"⟩, by decide, heldBy_iff.2 (by decide +kernel), heldBy_iff.2 (by decide +kernel)⟩

/-- The second hold comes from an acquire by a holder whose hold was stripped. -/
theorem stripping_strips :
    stripping.policy.singleHold = true ∧ stripping.Doubled 25 ∧
      ∃ m < 25, ∃ slot slot' holder, slot ≠ slot' ∧ stripping.Stripped m slot holder ∧
        stripping.Acquired m slot' holder :=
  ⟨rfl, stripping_doubled,
    (doubled_iff_stripped rfl 25).1 ⟨25, Nat.le_refl 25, stripping_doubled⟩⟩

/-- A holder can get two holds though it may hold one slot only. -/
theorem doubled_after_release :
    ¬ ∀ (ρ : Run) (n : Nat), ρ.policy.singleHold = true → ¬ ρ.Doubled n :=
  fun never => never stripping 25 rfl stripping_doubled

end Holdfast.Reservation.Run
