import Holdfast.Proofs.Conduct.Step

/-!
# An acquire never replaces another holder's live hold

Between the look at a slot's hold and the transaction that writes a new one anything may happen,
other acquires of the slot included. But the transaction rests on the hold: one that commits finds
no live hold, or the very entry that was looked at, and then this was the claimant's own hold.
-/

namespace Holdfast.Reservation.Run

variable {ρ : Run} {n i b n₀ : Nat} {w : Watch} {writes : List Write} {slot : SlotId}
  {claimant : Claimant} {c : Call}

/-- A committed transaction that rests on a slot's hold finds none, or the one that was there. -/
theorem unheld_or_holds (covers : ρ.Covers w (Key.hold slot) b) (le : b ≤ n)
    (agrees : (ρ.store n).agrees (ρ.clock n) w = true) :
    ρ.Unheld n slot ∨ ∀ hold, ρ.Holds b slot hold → ρ.Holds n slot hold := by
  cases there : ρ.read? n (Key.hold slot) with
  | none => exact .inl there
  | some text =>
    right
    intro hold held
    rw [Holds, read?_of_covers covers le agrees there] at held
    rw [Holds, there]
    exact held

/-- Every placement rests on the hold of its slot since it looked at it. -/
theorem Placement.covers_hold {hold : HoldRecord}
    (grounds : ρ.Placement n₀ n slot claimant w hold) :
    ρ.Covers w (Key.hold slot) grounds.looked :=
  (grounds.covers _ (by simp [watchedKeys])).mono (Nat.le_of_lt grounds.unfenced_lt)

/-- A hold is written over none or over the claimant's own. -/
theorem Placement.unheld_or_own {hold : HoldRecord}
    (grounds : ρ.Placement n₀ n slot claimant w hold)
    (agrees : (ρ.store n).agrees (ρ.clock n) w = true) :
    ρ.Unheld n slot ∨ ∃ old, ρ.Holds n slot old ∧ old.owner = claimant.holder := by
  have covers := grounds.covers_hold
  have le : grounds.looked ≤ n := Nat.le_of_lt grounds.looked_lt
  have isSlot := grounds.isSlot
  cases grounds.decided with
  | new unheld alone eq =>
    rw [isSlot] at unheld
    exact .inl (read?_eq_none_of_covers covers le agrees unheld)
  | renewed old held own eq =>
    rw [isSlot] at held
    rcases unheld_or_holds covers le agrees with gone | stays
    · exact .inl gone
    · exact .inr ⟨old, stays old held, own⟩

/-- What a call that acquires commits is the writing of a hold, or it belongs to the release of
another slot through the same connection and only deletes. -/
theorem Deed.acquire (deed : ρ.Deed i n₀ c n (.store (.exec w writes)))
    (acquires : c.Acquires slot claimant) :
    (∃ hold : HoldRecord, ∃ ttl, .put (Key.hold slot) hold.encode ttl ∈ writes) ∨
      (∃ other, other ≠ slot ∧ c.Releases other claimant) ∧
        ∀ write ∈ writes, ∃ key, write = .delete key := by
  have another : ∀ {other claimant'}, c.Releases other claimant' →
      ∃ other, other ≠ slot ∧ c.Releases other claimant := by
    intro other claimant' releases
    cases acquires with
    | alone slot claimant ttl => cases releases
    | connected slot holder session =>
      cases releases with
      | previous holder session h => exact ⟨other, h, .previous holder session h⟩
  cases deed with
  | spare h => cases h
  | @place slot' claimant' w hold ttl' places grounds =>
    left
    have same : slot' = slot := by cases acquires <;> cases places <;> rfl
    subst same
    exact ⟨hold, ttl', by simp [placing]⟩
  | remove entitled grounds =>
    right
    rcases entitled with ⟨claimant', releases, -⟩ | ⟨claimant', f, commits, -⟩
    · refine ⟨another releases, ?_⟩
      rw [grounds.writes_eq]
      intro write mem
      rcases List.mem_cons.1 mem with rfl | mem
      · exact ⟨_, rfl⟩
      · obtain ⟨key, -, rfl⟩ := List.mem_map.1 mem
        exact ⟨key, rfl⟩
    · subst commits
      cases acquires
  | clear releases index b early late covers names =>
    right
    refine ⟨another releases, ?_⟩
    intro write mem
    exact ⟨_, List.mem_singleton.1 mem⟩
  | fence commits grounds =>
    subst commits
    cases acquires

/-- **An acquire never replaces another holder's live hold.** A transaction that a call to acquire a
slot commits writes a hold on it, unless it belongs to the release of another slot through the same
connection. And whoever writes a hold on a slot acquires the slot and finds on it, at the instant of
the transaction, no live hold or one of the same holder. -/
theorem acquire_replaces_no_other (call : ρ.call? n i = some c)
    (commits : ρ.Commits n i w writes) :
    (∀ slot claimant, c.Acquires slot claimant →
      (∃ hold : HoldRecord, ∃ ttl, .put (Key.hold slot) hold.encode ttl ∈ writes) ∨
        (∃ other, other ≠ slot ∧ c.Releases other claimant) ∧
          ∀ write ∈ writes, ∃ key, write = .delete key) ∧
    ∀ slot text ttl, .put (Key.hold slot) text ttl ∈ writes →
      ∃ claimant, c.Acquires slot claimant ∧
        (ρ.Unheld n slot ∨ ∃ hold, ρ.Holds n slot hold ∧ hold.owner = claimant.holder) := by
  obtain ⟨n₀, -, -, deed⟩ := deed_of_call call commits.1.hears
  constructor
  · exact fun slot claimant acquires => deed.acquire acquires
  · intro slot text ttl puts
    obtain ⟨claimant, hold, acquires, -, ⟨grounds⟩⟩ := deed.placement puts
    exact ⟨claimant, acquires, grounds.unheld_or_own commits.2⟩

/-- A holder renews its hold while another one asks for the slot and time passes. -/
def renewing : Run :=
  offering [1]
    ([.begin (.acquire 1 { holder := ⟨"a"⟩ } 120000)] ++ List.replicate 9 (.proceed 0) ++
      [.begin (.acquire 1 { holder := ⟨"b"⟩ } 120000), .wait 1000,
        .begin (.acquire 1 { holder := ⟨"a"⟩ } 60000)] ++
      List.replicate 4 (.proceed 1) ++ List.replicate 5 (.proceed 2) ++ [.proceed 1, .proceed 2])

/-- The renewal finds the live hold of its own holder. -/
theorem renewal_replaces_own :
    renewing.call? 23 2 = some (.acquire 1 { holder := ⟨"a"⟩ } 60000) ∧
      renewing.Commits 23 2
        ⟨[("hold:1", some 1), ("booked:1", none), ("holder:a", some 2)]⟩
        (placing {} { owner := ⟨"a"⟩, slot := 1, day := openingDay } 1 ⟨"a"⟩ 60000) ∧
      ∃ claimant, (Call.acquire 1 { holder := ⟨"a"⟩ } 60000).Acquires 1 claimant ∧
        (renewing.Unheld 23 1 ∨
          ∃ hold, renewing.Holds 23 1 hold ∧ hold.owner = claimant.holder) := by
  have call : renewing.call? 23 2 = some (.acquire 1 { holder := ⟨"a"⟩ } 60000) := by decide +kernel
  have commits : renewing.Commits 23 2
      ⟨[("hold:1", some 1), ("booked:1", none), ("holder:a", some 2)]⟩
      (placing {} { owner := ⟨"a"⟩, slot := 1, day := openingDay } 1 ⟨"a"⟩ 60000) :=
    ⟨⟨rfl, by decide +kernel⟩, by decide +kernel⟩
  exact ⟨call, commits,
    (acquire_replaces_no_other call commits).2 1 _ _ (List.mem_append_left _ List.mem_cons_self)⟩

end Holdfast.Reservation.Run
