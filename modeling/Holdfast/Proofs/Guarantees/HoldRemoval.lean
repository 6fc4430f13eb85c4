import Holdfast.Proofs.Conduct.Contents
import Holdfast.Proofs.Guarantees.BookingFence

/-!
# Nobody else's hold is ever removed

Three kinds of transactions write or delete the key of a hold: an acquire, a release, and the
clearing at the end of a commit. The first two rest on the hold, so they find the very one that they
looked at. The clearing looks at nobody's name. But the commit has marked the slot before, when the
hold was its claimant's, and since then nobody could place another.

* `Fate`: what becomes of a live hold with a move.
* `live?_of_fences`: the hold that a commit finds after it marked the slot is the one that was there
  at the mark.
* `fate_of_hold`: a live hold does not leave the store before its deadline in any other way.
-/

namespace Holdfast.Reservation.Run

variable {ρ : Run} {n m i n₀ f : Nat} {w : Watch} {slot : SlotId} {claimant : Claimant}
  {c : Call} {hold : HoldRecord} {writes : List Write} {e : Entry}

/-- **What becomes of a live hold with a move**, when its deadline does not pass. It stays as it is;
or its holder renews it, and what is stored then is the renewed hold with a deadline of its own; or a
transaction takes it away. That transaction belongs to a release for a claimant who owns the hold,
or it is the clearing of a commit that has marked the slot for the same holder. -/
inductive Fate (ρ : Run) (n : Nat) (slot : SlotId) (e : Entry) (hold : HoldRecord) : Prop where
  | stays (there : ρ.stored? (n + 1) (Key.hold slot) = some e)
  | renewed {claimant : Claimant} {ttl : Nat} (own : hold.owner = claimant.holder)
    (places : ρ.Places n slot claimant (renewal hold claimant) ttl)
    (there : ∃ e', ρ.stored? (n + 1) (Key.hold slot) = some e' ∧
      e'.value = (renewal hold claimant).encode ∧ e'.deadline = ρ.clock n + ttl)
  | released {i : Nat} {c : Call} {claimant : Claimant} {w : Watch} {stale : List String}
    (call : ρ.call? n i = some c) (releases : c.Releases slot claimant)
    (owned : hold.isOwnedBy claimant = true)
    (commits : ρ.Commits n i w (.delete (Key.hold slot) :: List.map .delete stale))
    (gone : ρ.stored? (n + 1) (Key.hold slot) = none)
  | cleared {i f : Nat} {claimant : Claimant} {w : Watch} {stale : List String}
    (call : ρ.call? n i = some (.commit slot claimant)) (before : f < n)
    (fences : ρ.Fences f i slot) (own : hold.owner = claimant.holder)
    (commits : ρ.Commits n i w (.delete (Key.hold slot) :: List.map .delete stale))
    (gone : ρ.stored? (n + 1) (Key.hold slot) = none)

/-! ## What a mark keeps -/

/-- A move that marks a slot places no hold. -/
theorem Fences.not_places {ttl : Nat} (fences : ρ.Fences n i slot) :
    ¬ ρ.Places n slot claimant hold ttl := by
  rintro ⟨-, -, -, -, ⟨⟨move, waits⟩, -⟩, -⟩
  obtain ⟨w, text, ⟨move', waits'⟩, -⟩ := fences
  obtain rfl := Move.proceed.inj (move'.symm.trans move)
  have same := Option.some.inj (waits'.symm.trans waits)
  simp [placing] at same
  exact Key.hold_ne_booked slot slot same.2.1.1.symm

/-- **The hold that a call finds after it marked a slot was there at the mark**, as long as the mark
stands. -/
theorem live?_of_fences (brief : ρ.Brief) (fences : ρ.Fences f i slot) (le : f ≤ n)
    (kept : ρ.Avoids i (unmarking slot) f n) (early : ρ.clock n < ρ.clock f + fenceTtl)
    (live : ρ.live? n (Key.hold slot) = some e) : ρ.live? f (Key.hold slot) = some e := by
  induction le with
  | refl => exact live
  | @step n le ih =>
    have later : ρ.clock n ≤ ρ.clock n.succ := ρ.clock_le_succ n
    rcases hold_succ live with before | ⟨claimant, hold, ttl, places, -, -⟩
    · exact ih (fun k reply low high => kept k reply low (by omega)) (by omega) before
    · rcases Nat.eq_or_lt_of_le le with rfl | lt
      · exact absurd places fences.not_places
      · obtain ⟨-, -, -, -, commits, grounds⟩ := places
        exact (no_placement_marked brief fences (fun k reply low high => kept k reply low (by omega))
          lt (by omega) commits.2 grounds).elim

/-- A commit that goes on after its mark has not taken it off. -/
theorem avoids_of_hears {e : Effect} {reply : e.Reply}
    (call : ρ.call? n i = some (.commit slot claimant)) (hears : ρ.Hears n i e reply) :
    ρ.Avoids i (unmarking slot) f n := by
  intro k reply' low high hears'
  have asks := asks_of_pending call hears.1
  rcases Program.asks_bind.1 asks with first | ⟨t₀, t₁, a, -, -, last⟩
  · exact unmarked_last first ⟨_, reply'⟩ (mem_heard.2 ⟨k, Nat.zero_le k, high, hears'⟩) rfl
  · exact Program.not_asks_done last

/-- **The hold that a commit clears belongs to its claimant's holder.** -/
theorem owned_of_cleared (brief : ρ.Brief) (call : ρ.call? n i = some (.commit slot claimant))
    (begins : ρ.Begins n₀ i (.commit slot claimant)) (begun : n₀ < f) (before : f < n)
    (fences : ρ.Fences f i slot) {e' : Effect} {reply : e'.Reply} (hears : ρ.Hears n i e' reply)
    (held : ρ.Holds n slot hold) : hold.isOwnedBy claimant = true := by
  obtain ⟨e, live, decoded⟩ := holds_iff_live.1 held
  have soon := brief n₀ i _ n e' reply (by simp) begins (by omega) hears
  have le := ρ.clock_le (Nat.le_of_lt begun)
  have there := live?_of_fences brief fences (Nat.le_of_lt before) (avoids_of_hears call hears)
    (by unfold fenceTtl; omega) live
  have held' : ρ.Holds f slot hold := holds_iff_live.2 ⟨e, there, decoded⟩
  obtain ⟨w, text, commits⟩ := fences
  obtain ⟨c, call'⟩ := ρ.call?_of_hears i commits.1.hears
  obtain rfl := call?_unique call call'
  obtain ⟨n₁, claimant', hold', -, -, same, ⟨grounds⟩⟩ := commits.fencing call'
  obtain ⟨-, rfl⟩ := Call.commit.inj same
  obtain ⟨hold'', holds, owned⟩ := (grounds.owns_iff commits.2).2 (not_unheld_of_holds held')
  obtain rfl := Option.some.inj (held'.symm.trans holds)
  exact owned

/-! ## What transactions do to a live hold -/

/-- A transaction that rests on a hold finds the one that it looked at. -/
theorem eq_of_covers {looked : Nat} {found : HoldRecord}
    (covers : ρ.Covers w (Key.hold slot) looked) (le : looked ≤ n)
    (agrees : (ρ.store n).agrees (ρ.clock n) w = true) (looked_at : ρ.Holds looked slot found)
    (held : ρ.Holds n slot hold) : found = hold := by
  rcases unheld_or_holds covers le agrees with unheld | stays
  · exact absurd unheld (not_unheld_of_holds held)
  · exact Option.some.inj ((stays found looked_at).symm.trans held)

/-- What is stored after a transaction that commits. -/
theorem stored?_of_commits (commits : ρ.Commits n i w writes) (key : String) :
    ρ.stored? (n + 1) key =
      (writes.foldl (Store.apply (ρ.clock n)) (ρ.store n)).entries.get? key := by
  rw [stored?, (store_of_commits commits).2]

/-- What is live and is not written stays. -/
theorem Fate.of_untouched (live : ρ.live? n (Key.hold slot) = some e)
    (commits : ρ.Commits n i w writes) (other : Write.Misses writes (Key.hold slot)) :
    ρ.Fate n slot e hold := by
  refine .stays ?_
  rw [stored?_of_commits commits, Store.get?_writes_ne other]
  exact (live?_iff_stored.1 live).1

/-- The fate of a hold whose slot an acquire writes. -/
theorem Fate.of_placement {ttl : Nat} {new : HoldRecord} (lt : n₀ < n) (begins : ρ.Begins n₀ i c)
    (call : ρ.call? n i = some c) (acquires : c.Acquires slot claimant)
    (commits : ρ.Commits n i w (placing ρ.policy new slot claimant.holder ttl))
    (grounds : ρ.Placement n₀ n slot claimant w new) (held : ρ.Holds n slot hold) :
    ρ.Fate n slot e hold := by
  have covers := grounds.covers_hold
  have le := Nat.le_of_lt grounds.looked_lt
  have isSlot := grounds.isSlot
  cases grounds.decided with
  | new unheld alone eq =>
    rw [isSlot] at unheld
    exact absurd (read?_eq_none_of_covers covers le commits.2 unheld) (not_unheld_of_holds held)
  | renewed old held' own eq =>
    rw [isSlot] at held'
    obtain rfl := eq_of_covers covers le commits.2 held' held
    subst eq
    have there := (stored?_of_commits commits (Key.hold slot)).trans get?_placing_hold
    exact .renewed own ⟨lt, begins, call, acquires, commits, grounds⟩ ⟨_, there, rfl, rfl⟩

/-- The fate of a hold that is taken away. -/
theorem Fate.of_removal (brief : ρ.Brief) (begins : ρ.Begins n₀ i c) (call : ρ.call? n i = some c)
    (commits : ρ.Commits n i w writes) {found : HoldRecord}
    (entitled : (∃ claimant, c.Releases slot claimant ∧ found.isOwnedBy claimant = true) ∨
      ∃ claimant f, c = .commit slot claimant ∧ n₀ < f ∧ f < n ∧ ρ.Fences f i slot)
    (grounds : ρ.Removal n₀ n slot w found writes) (held : ρ.Holds n slot hold) :
    ρ.Fate n slot e hold := by
  obtain rfl := eq_of_covers grounds.covers (Nat.le_of_lt grounds.looked_lt) commits.2 grounds.held
    held
  have shape := grounds.writes_eq
  rw [shape] at commits
  have gone : ρ.stored? (n + 1) (Key.hold slot) = none := by
    rw [stored?_of_commits commits, ← List.map_cons]
    exact Store.get?_deletes List.mem_cons_self
  rcases entitled with ⟨claimant, releases, owned⟩ | ⟨claimant, f, rfl, begun, before, fences⟩
  · exact .released call releases owned commits gone
  · have owned := owned_of_cleared brief call begins begun before fences commits.1.hears held
    rw [HoldRecord.isOwnedBy, Bool.and_eq_true] at owned
    exact .cleared call before fences (of_decide_eq_true owned.1) commits gone

/-- **A live hold does not leave the store before its deadline**, unless its holder renews it, a
release for a claimant who owns it takes it away, or the commit of its holder clears it. -/
theorem fate_of_hold (brief : ρ.Brief) (live : ρ.live? n (Key.hold slot) = some e)
    (early : ρ.clock (n + 1) < e.deadline) :
    ∃ hold, HoldRecord.decode? e.value = some hold ∧ ρ.Fate n slot e hold := by
  obtain ⟨hold, value, held⟩ := holds_of_live live
  refine ⟨hold, by rw [value, hold.decode?_encode], ?_⟩
  cases ρ.step n with
  | still live' => exact .stays (live?_iff_stored.1 ((live' _ e).2 ⟨live, early⟩)).1
  | @delete i n₀ c key lt begins call performs deed clock live' =>
    refine .stays (live?_iff_stored.1 ((live' _).trans ?_)).1
    rw [Store.live?_remove_ne]
    · exact live
    · cases deed with
      | spare h => cases h
      | @unmark slot' claimant commits f early late fenced once =>
        exact Key.hold_ne_booked slot slot'
      | @forget holder session ends => exact Key.hold_ne_session slot session
  | @exec i n₀ c w writes lt begins call commits deed clock live' =>
    cases deed with
    | spare h => cases h
    | @place slot' claimant w new ttl acquires grounds =>
      by_cases same : slot' = slot
      · subst same
        exact .of_placement lt begins call acquires commits grounds held
      · exact .of_untouched live commits (misses_placing_hold same)
    | @remove slot' w found writes entitled grounds =>
      by_cases same : slot' = slot
      · subst same
        exact .of_removal brief begins call commits entitled grounds held
      · refine .of_untouched live commits (grounds.misses (fun key => same (Key.hold_inj key)) ?_)
        exact fun stale => hold_ne_of_index (grounds.named _ stale).1 rfl
    | clear releases index b early late covers names =>
      exact .of_untouched live commits (.single (hold_ne_of_index index))
    | @fence slot' claimant w hold commits' grounds =>
      exact .of_untouched live commits (.single (Key.hold_ne_booked slot slot').symm)

/-- The hold that a commit clears is live until then, and is gone though its time is not up. -/
theorem committing_clears :
    ∃ e, committing.live? 27 (Key.hold 1) = some e ∧ committing.clock 28 < e.deadline ∧
      committing.stored? 28 (Key.hold 1) = none ∧
      ∃ hold, HoldRecord.decode? e.value = some hold ∧ committing.Fate 27 1 e hold := by
  have deadline : (committing.live? 27 (Key.hold 1)).map (·.deadline) = some 120000 := by
    decide +kernel
  obtain ⟨e, live, lasts⟩ := Option.map_eq_some_iff.1 deadline
  have early : committing.clock 28 < e.deadline := by
    rw [lasts]
    decide +kernel
  exact ⟨e, live, early, by decide +kernel, fate_of_hold committing_brief live early⟩

end Holdfast.Reservation.Run
