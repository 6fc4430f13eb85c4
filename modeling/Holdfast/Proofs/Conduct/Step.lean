import Holdfast.Proofs.Conduct.Call
import Holdfast.Proofs.Store.Writes

/-!
# What a move does to the live entries

Seen from the live entries there are three kinds of moves: nothing is written and entries may
expire, a transaction of some call commits, or a call deletes a key. In the last two the call did a
deed with its grounds and no time passes.

* `step`: the kinds of moves.
* `hold_succ`: a hold becomes live only when an acquire places it.
* `holder_succ`: a holder's entry stays until it expires, unless an acquire writes it, or it is
  taken away, with a hold that it names or alone.
-/

namespace Holdfast.Reservation.Run

variable {ρ : Run} {n : Nat}

/-- What one move does to the live entries. -/
inductive Step (ρ : Run) (n : Nat) : Prop where
  | still (live : ∀ key e, ρ.live? (n + 1) key = some e ↔
      ρ.live? n key = some e ∧ ρ.clock (n + 1) < e.deadline)
  | exec {i n₀ : Nat} {c : Call} {w : Watch} {writes : List Write} (lt : n₀ < n)
    (begins : ρ.Begins n₀ i c) (call : ρ.call? n i = some c) (commits : ρ.Commits n i w writes)
    (deed : ρ.Deed i n₀ c n (.store (.exec w writes))) (clock : ρ.clock (n + 1) = ρ.clock n)
    (live : ∀ key, ρ.live? (n + 1) key =
      (writes.foldl (Store.apply (ρ.clock n)) (ρ.store n)).live? (ρ.clock n) key)
  | delete {i n₀ : Nat} {c : Call} {key : String} (lt : n₀ < n) (begins : ρ.Begins n₀ i c)
    (call : ρ.call? n i = some c) (performs : ρ.Performs n i (.store (.delete key)))
    (deed : ρ.Deed i n₀ c n (.store (.delete key))) (clock : ρ.clock (n + 1) = ρ.clock n)
    (live : ∀ key', ρ.live? (n + 1) key' =
      ((ρ.store n).remove key).live? (ρ.clock n) key')

/-- Entries only expire as long as nothing is written. -/
theorem live?_of_store_eq (h : ρ.store (n + 1) = ρ.store n) (key : String) (e : Entry) :
    ρ.live? (n + 1) key = some e ↔ ρ.live? n key = some e ∧ ρ.clock (n + 1) < e.deadline := by
  have later := ρ.clock_le_succ n
  rw [live?, live?, h, Store.live?_eq_some_iff, Store.live?_eq_some_iff]
  constructor
  · rintro ⟨there, early⟩
    exact ⟨⟨there, by omega⟩, early⟩
  · rintro ⟨⟨there, -⟩, early⟩
    exact ⟨there, early⟩

/-- An entry that a move leaves as it is, while no time passes. -/
theorem live?_of_unchanged {key : String} (clock : ρ.clock (n + 1) = ρ.clock n)
    (same : ρ.live? (n + 1) key = ρ.live? n key) (e : Entry) :
    ρ.live? (n + 1) key = some e ↔ ρ.live? n key = some e ∧ ρ.clock (n + 1) < e.deadline := by
  rw [same, clock]
  refine ⟨fun live => ⟨live, ?_⟩, And.left⟩
  exact (Store.live?_eq_some_iff.1 live).2

/-- **What a move does to the live entries.** -/
theorem step (ρ : Run) (n : Nat) : ρ.Step n := by
  rcases ρ.store_succ n with ⟨i, r, performs, clock, after⟩ | after
  · obtain ⟨n₀, c, lt, begins, call, deed⟩ := deed performs.hears
    have live : ∀ key, ρ.live? (n + 1) key =
        ((ρ.store n).answer (ρ.clock n) r).2.live? (ρ.clock n) key := by
      intro key
      rw [live?, after, clock]
    cases r with
    | exec w writes =>
      cases agrees : (ρ.store n).agrees (ρ.clock n) w with
      | true =>
        refine .exec lt begins call ⟨performs, agrees⟩ deed clock ?_
        intro key
        rw [live, Store.answer, Store.exec, if_pos agrees]
      | false =>
        refine .still fun key => live?_of_unchanged clock ?_
        rw [live, Store.answer, Store.exec, if_neg (by simp [agrees])]
        rfl
    | delete key => exact .delete lt begins call performs deed clock live
    | evict =>
      refine .still fun key => live?_of_unchanged clock ?_
      rw [live, Store.answer, Store.live?_evict _ _ (Nat.le_refl _)]
      rfl
    | tryCreate key value ttl =>
      cases deed with
      | spare h => cases h
    | refresh key value ttl =>
      cases deed with
      | spare h => cases h
    | _ => exact .still fun key => live?_of_unchanged clock (live key)
  · exact .still (live?_of_store_eq after)

/-- What a transaction that commits leaves behind; it takes no time. -/
theorem store_of_commits {i : Nat} {w : Watch} {writes : List Write}
    (commits : ρ.Commits n i w writes) : ρ.clock (n + 1) = ρ.clock n ∧
      ρ.store (n + 1) = writes.foldl (Store.apply (ρ.clock n)) (ρ.store n) := by
  have after := ρ.world_of_performs commits.1
  constructor
  · rw [Run.clock, Run.clock, after, World.perform_clock]
  · rw [store, after]
    change ((ρ.store n).exec (ρ.clock n) w writes).2 = _
    rw [Store.exec, if_pos commits.2]

/-- What a transaction that commits leaves live. -/
theorem live?_of_commits {i : Nat} {w : Watch} {writes : List Write}
    (commits : ρ.Commits n i w writes) (key : String) :
    ρ.clock (n + 1) = ρ.clock n ∧ ρ.live? (n + 1) key =
      (writes.foldl (Store.apply (ρ.clock n)) (ρ.store n)).live? (ρ.clock n) key := by
  obtain ⟨clock, after⟩ := store_of_commits commits
  exact ⟨clock, by rw [live?, clock, after]⟩

/-- What takes a hold away writes to no keys but that of the hold and those of its entries. -/
theorem Removal.misses {n₀ : Nat} {slot : SlotId} {w : Watch} {hold : HoldRecord}
    {writes : List Write} (grounds : ρ.Removal n₀ n slot w hold writes) {key : String}
    (hold_ne : Key.hold slot ≠ key) (other : key ∉ grounds.stale) : Write.Misses writes key := by
  rw [grounds.writes_eq]
  exact .cons hold_ne (.deletes other)

/-! ## Where holds come from -/

/-- Only acquires write holds. -/
theorem Deed.placement {i n₀ : Nat} {c : Call} {w : Watch} {writes : List Write} {slot : SlotId}
    {text : String} {ttl : Nat} (deed : ρ.Deed i n₀ c n (.store (.exec w writes)))
    (puts : .put (Key.hold slot) text ttl ∈ writes) :
    ∃ claimant hold, c.Acquires slot claimant ∧
      writes = placing ρ.policy hold slot claimant.holder ttl ∧
      Nonempty (ρ.Placement n₀ n slot claimant w hold) := by
  cases deed with
  | spare h => cases h
  | @place slot' claimant w hold ttl' acquires grounds =>
    rcases mem_placing puts with same | ⟨-, same⟩ | ⟨session, same⟩
    · obtain ⟨key, -, rfl⟩ := Write.put.inj same
      obtain rfl := Key.hold_inj key
      exact ⟨claimant, hold, acquires, rfl, ⟨grounds⟩⟩
    · exact absurd (Write.put.inj same).1 (Key.hold_ne_holder slot _)
    · exact absurd (Write.put.inj same).1 (Key.hold_ne_session slot session)
  | remove entitled grounds =>
    rw [grounds.writes_eq] at puts
    simp at puts
  | clear releases index b early late covers names => simp at puts
  | fence commits grounds =>
    obtain ⟨key, -, -⟩ := Write.put.inj (List.mem_singleton.1 puts)
    exact absurd key (Key.hold_ne_booked slot _)

/-- The next move commits a transaction of an acquire that writes a hold on the slot. -/
inductive Places (ρ : Run) (n : Nat) (slot : SlotId) (claimant : Claimant) (hold : HoldRecord)
    (ttl : Nat) : Prop where
  | intro {i n₀ : Nat} {c : Call} {w : Watch} (lt : n₀ < n) (begins : ρ.Begins n₀ i c)
    (call : ρ.call? n i = some c) (acquires : c.Acquires slot claimant)
    (commits : ρ.Commits n i w (placing ρ.policy hold slot claimant.holder ttl))
    (grounds : ρ.Placement n₀ n slot claimant w hold)

variable {slot : SlotId} {e : Entry}

/-- **Where a live hold comes from**: it was live before, or an acquire places it. -/
theorem hold_succ (live : ρ.live? (n + 1) (Key.hold slot) = some e) :
    ρ.live? n (Key.hold slot) = some e ∨
      ∃ claimant hold ttl, ρ.Places n slot claimant hold ttl ∧ 0 < ttl ∧
        e.value = hold.encode := by
  cases ρ.step n with
  | still live' => exact .inl ((live' _ e).1 live).1
  | delete lt begins call performs deed clock live' =>
    rw [live'] at live
    exact .inl (Store.live?_of_remove live)
  | @exec i n₀ c w writes lt begins call commits deed clock live' =>
    rw [live'] at live
    cases deed with
    | spare h => cases h
    | @place slot' claimant w hold ttl acquires grounds =>
      by_cases same : slot' = slot
      · subst same
        obtain ⟨rfl, early⟩ := live?_placing_hold.1 live
        exact .inr ⟨claimant, hold, ttl, ⟨lt, begins, call, acquires, commits, grounds⟩, by omega,
          rfl⟩
      · rw [Store.live?_writes_ne (misses_placing_hold same)] at live
        exact .inl live
    | remove entitled grounds =>
      rw [grounds.writes_eq, ← List.map_cons] at live
      exact .inl (Store.live?_of_deletes live)
    | @clear slot' claimant w key releases index b early late covers names =>
      exact .inl (Store.live?_of_remove live)
    | @fence slot' claimant w hold commits' grounds =>
      refine .inl ((Store.live?_writes_ne (.single ?_)).symm.trans live)
      exact (Key.hold_ne_booked slot slot').symm

/-! ## What becomes of a holder's entry -/

/-- What a move does to the entry that says what a holder holds. -/
inductive HolderStep (ρ : Run) (n : Nat) (holder : HolderId) : Prop where
  | kept (live : ∀ x, ρ.live? (n + 1) (Key.holder holder) = some x ↔
      ρ.live? n (Key.holder holder) = some x ∧ ρ.clock (n + 1) < x.deadline)
  | placed {slot : SlotId} {claimant : Claimant} {hold : HoldRecord} {ttl : Nat}
    (own : claimant.holder = holder) (places : ρ.Places n slot claimant hold ttl)
  | removed {slot : SlotId} {hold : HoldRecord} {n₀ i : Nat} {w : Watch} {writes : List Write}
    (commits : ρ.Commits n i w writes) (grounds : ρ.Removal n₀ n slot w hold writes)
    (stale : Key.holder holder ∈ grounds.stale)
  | cleared {slot : SlotId} {claimant : Claimant} {c : Call} {i b : Nat} {w : Watch}
    (call : ρ.call? n i = some c) (releases : c.Releases slot claimant)
    (own : claimant.holder = holder) (commits : ρ.Commits n i w [.delete (Key.holder holder)])
    (late : b < n) (covers : ρ.Covers w (Key.holder holder) b)
    (names : ρ.Names b (Key.holder holder) slot)

/-- Of the entries that go with a hold one is its owner's, no other is a holder's. -/
theorem holder_of_index {holder holder' : HolderId} {session : Option SessionId}
    (h : Key.holder holder ∈ indexKeys holder' session) : holder' = holder := by
  rcases mem_indexKeys h with same | ⟨s, same⟩
  · exact (Key.holder_inj same).symm
  · exact absurd same (Key.holder_ne_session holder s)

/-- **What a move does to a holder's entry.** -/
theorem holder_succ (ρ : Run) (n : Nat) (holder : HolderId) : ρ.HolderStep n holder := by
  cases ρ.step n with
  | still live => exact .kept (live _)
  | @delete i n₀ c key lt begins call performs deed clock live =>
    refine .kept (live?_of_unchanged clock ?_)
    rw [live]
    cases deed with
    | spare h => cases h
    | unmark commits f early late fences once =>
      exact Store.live?_remove_ne _ _ (Key.booked_ne_holder _ holder).symm
    | forget ends => exact Store.live?_remove_ne _ _ (Key.holder_ne_session holder _)
  | @exec i n₀ c w writes lt begins call commits deed clock live =>
    cases deed with
    | spare h => cases h
    | @place slot claimant w hold ttl acquires grounds =>
      by_cases own : claimant.holder = holder
      · exact .placed own ⟨lt, begins, call, acquires, commits, grounds⟩
      · refine .kept (live?_of_unchanged clock ((live _).trans (Store.live?_writes_ne ?_)))
        exact misses_placing_holder own
    | @remove slot w hold writes entitled grounds =>
      by_cases stale : Key.holder holder ∈ grounds.stale
      · exact .removed commits grounds stale
      · refine .kept (live?_of_unchanged clock ((live _).trans (Store.live?_writes_ne ?_)))
        exact grounds.misses (Key.hold_ne_holder slot holder) stale
    | @clear slot claimant w key releases index b early late covers names =>
      by_cases same : key = Key.holder holder
      · subst same
        exact .cleared call releases (holder_of_index index) commits late covers names
      · refine .kept (live?_of_unchanged clock ((live _).trans (Store.live?_writes_ne ?_)))
        exact .single same
    | @fence slot claimant w hold commits' grounds =>
      refine .kept (live?_of_unchanged clock ((live _).trans (Store.live?_writes_ne ?_)))
      exact .single (Key.booked_ne_holder slot holder)

end Holdfast.Reservation.Run
