import Holdfast.Proofs.Conduct.Release
import Holdfast.Reservation.Acquire

/-!
# What an acquire does

An acquire writes nothing but a hold with the entries that go with it, and only on the grounds that
a `Placement` lists: the slot could be held when it was looked up, after that it was not marked as
being booked, and after that its hold was the claimant's own or there was none.
-/

namespace Holdfast.Reservation.Run

variable {ρ : Run} {i n₀ n : Nat} {c : Call}

/-- Looking for a slot that can be held. -/
theorem keeps_openSlot {slot : SlotId} {promise : SlotRecord → Nat → Prop}
    (value : ∀ m r, n ≤ m → (ρ.catalogue m).get? slot = some r → r.booked = false →
      promise r (m + 1)) :
    ρ.Keeps i (ρ.Deed i n₀ c) (okay promise) (openSlot slot) n := by
  refine .bind (keeps_admission (sparing_deed ρ i n₀ c) ?_)
  intro m le a
  cases a with
  | closed => exact trivial
  | days enabled =>
    refine .bind (keeps_find (sparing_deed ρ i n₀ c) ?_ fun _ _ _ => trivial)
    intro m' le' r known
    cases booked : r.booked with
    | true =>
      simp only [andThen, booked, if_true]
      exact trivial
    | false =>
      simp only [andThen, booked, Bool.false_eq_true, if_false]
      split
      · exact value m' r (by omega) known booked
      · exact trivial

section attempt

variable {slot : SlotId} {claimant : Claimant} {w : Watch} {hold : HoldRecord} {ttl : Nat}
  {promise : AcquireOutcome → Nat → Prop}

/-- Writing a hold on good grounds, which can be announced later. -/
theorem keeps_place {record : SlotRecord} (acquires : c.Acquires record.id claimant)
    {renewed : Bool} (grounds : ∀ m, n ≤ m →
      ∃ grounds : ρ.Placement n₀ m record.id claimant w hold, grounds.record = record)
    (placed : ∀ p, n ≤ p → ρ.Announcing i n₀ c p (.held record.id record.day (secondsUp ttl)) →
      promise (.acquired hold ttl renewed) (p + 1)) :
    ρ.Keeps i (ρ.Deed i n₀ c) (tried (okay promise))
      (place ρ.policy w record.id claimant hold ttl renewed) n := by
  refine keeps_transact ?_ ?_ (fun _ _ => trivial) fun _ _ _ => trivial
  · intro m le
    obtain ⟨placement, -⟩ := grounds m le
    exact .place acquires placement
  · intro p le commits
    obtain ⟨placement, isRecord⟩ := grounds p le
    exact placed p le (.held acquires placement isRecord commits)

/-- Reporting a conflict. -/
theorem keeps_conflictOver {key : String} {conflict : Nat → Conflict}
    (value : ∀ m conflict, n ≤ m → promise (.conflict conflict) m) :
    ρ.Keeps i (ρ.Deed i n₀ c) (tried (okay promise)) (conflictOver key conflict) n := by
  refine .bind (keeps_remaining (sparing_deed ρ i n₀ c) ?_ fun _ _ _ => trivial)
  intro m le
  simp only [andThen]
  cases (ρ.store m).remaining? (ρ.clock m) key with
  | none => exact trivial
  | some left => exact value (m + 1) (conflict left) (by omega)

/-- Looking for another slot that the holder seems to hold. -/
theorem keeps_otherSlot {looked : Nat} (late : looked < n)
    {promise : Except Failure (Option SlotId) → Nat → Prop}
    (alone : ∀ m, n ≤ m → ρ.Alone slot claimant.holder w looked m → promise (.ok none) m)
    (other : ∀ m, n ≤ m → ∀ other, ρ.Names m (Key.holder claimant.holder) other →
      promise (.ok (some other)) (m + 1))
    (error : ∀ m, n ≤ m → ∀ e, promise (.error e) m) :
    ρ.Keeps i (ρ.Deed i n₀ c) promise (otherSlot ρ.policy slot claimant.holder) n := by
  unfold otherSlot
  split
  · refine .bind (keeps_readIndex (sparing_deed ρ i n₀ c) ?_ ?_ error)
    · intro m le absent
      refine alone (m + 1) (by omega) (.unnamed m (by omega) (by omega) ?_)
      intro other names
      rw [Names, absent] at names
      cases names
    · intro m le named names
      by_cases same : named = slot
      · subst same
        simp only [andThen, Option.filter, decide_not, decide_true, Bool.not_true,
          Bool.false_eq_true, if_false]
        refine alone (m + 1) (by omega) (.unnamed m (by omega) (by omega) ?_)
        exact fun other names' => Option.some.inj (names'.symm.trans names)
      · simp only [andThen, Option.filter, decide_not, same, decide_false, Bool.not_false, if_true]
        exact other m le named names
  · rename_i many
    exact alone n (Nat.le_refl n) (.many (by simpa using many))

/-- Acquiring a slot that has no hold. -/
theorem keeps_placeNew {record : SlotRecord} {looked : Nat}
    (acquires : c.Acquires record.id claimant) (seen : ρ.Seen w n) (late : looked < n)
    (grounds : ∀ m w', n ≤ m → (∀ key b, ρ.Covers w key b → ρ.Covers w' key b) →
      ρ.Alone record.id claimant.holder w' looked m →
      ∃ grounds : ρ.Placement n₀ m record.id claimant w' (.new record claimant),
        grounds.record = record)
    (placed : ∀ p, n ≤ p → ρ.Announcing i n₀ c p (.held record.id record.day (secondsUp ttl)) →
      promise (.acquired (.new record claimant) ttl false) (p + 1))
    (conflict : ∀ m conflict, n ≤ m → promise (.conflict conflict) m) :
    ρ.Keeps i (ρ.Deed i n₀ c) (tried (okay promise))
      (placeNew ρ.policy w record claimant ttl) n := by
  -- Whatever is watched besides, the hold is written once the holder is known to be alone.
  have writes : ∀ k w', n ≤ k → (∀ key b, ρ.Covers w key b → ρ.Covers w' key b) →
      ρ.Alone record.id claimant.holder w' looked k →
      ρ.Keeps i (ρ.Deed i n₀ c) (tried (okay promise))
        (place ρ.policy w' record.id claimant (.new record claimant) ttl false) k :=
    fun k w' le keep alone => keeps_place acquires
      (fun m low => grounds m w' (by omega) keep (alone.mono low))
      (fun p low => placed p (by omega))
  refine .bind (keeps_otherSlot late (w := w) ?_ ?_ fun _ _ _ => trivial)
  · exact fun m le alone => writes m w le (fun _ _ => id) alone
  · intro j le other names
    refine .bind (keeps_watch (sparing_deed ρ i n₀ c) ?_ fun _ _ _ => trivial)
    intro m le'
    have covers : ρ.Covers (w.merge ((ρ.store m).watch (ρ.clock m) [Key.hold other]))
        (Key.hold other) m :=
      covers_merge_watch (seen.mono (by omega)) (List.mem_singleton_self _)
    have freed : ∀ k, m < k → (∀ hold, ρ.Holds k other hold → hold.owner ≠ claimant.holder) →
        ρ.Keeps i (ρ.Deed i n₀ c) (tried (okay promise))
          (place ρ.policy (w.merge ((ρ.store m).watch (ρ.clock m) [Key.hold other])) record.id
            claimant (.new record claimant) ttl false) (k + 1) :=
      fun k lt gone => writes (k + 1) _ (by omega) (fun _ _ covers => covers.merge _)
        (.freed j k other (by omega) (by omega) (by omega) names
          (covers.mono (Nat.le_of_lt lt)) gone)
    refine .bind (keeps_readHold (sparing_deed ρ i n₀ c) ?_ ?_ fun _ _ _ => trivial)
    · intro k lt unheld
      refine freed k (by omega) ?_
      exact fun hold held => absurd unheld (not_unheld_of_holds held)
    · intro k lt hold held
      by_cases own : hold.owner = claimant.holder
      · simp only [andThen, own, if_true]
        exact keeps_conflictOver (fun m' _ low => conflict m' _ (by omega))
      · simp only [andThen, own, if_false]
        refine freed k (by omega) ?_
        intro hold' held'
        obtain rfl := Option.some.inj (held.symm.trans held')
        exact own

/-- One attempt to acquire a slot: if it says so, the last move wrote a hold. -/
theorem keeps_tryAcquire {record : SlotRecord} {admitted : Nat} (begun : n₀ < admitted)
    (late : admitted < n) (known : (ρ.catalogue admitted).get? record.id = some record)
    (unbooked : record.booked = false) (acquires : c.Acquires record.id claimant)
    (placed : ∀ p hold renewed, n ≤ p →
      ρ.Announcing i n₀ c p (.held record.id record.day (secondsUp ttl)) →
      promise (.acquired hold ttl renewed) (p + 1))
    (conflict : ∀ m conflict, n ≤ m → promise (.conflict conflict) m) :
    ρ.Keeps i (ρ.Deed i n₀ c) (tried (okay promise))
      (tryAcquire ρ.policy record claimant ttl) n := by
  refine .bind (keeps_watch (sparing_deed ρ i n₀ c) ?_ fun _ _ _ => trivial)
  intro watched le
  refine .bind (keeps_isFenced (sparing_deed ρ i n₀ c) ?_ fun _ _ _ => trivial)
  intro unfenced lt fenced unmarked
  cases fenced with
  | true => exact trivial
  | false =>
    have covers : ∀ key ∈ watchedKeys ρ.policy record.id claimant.holder,
        ρ.Covers ((ρ.store watched).watch (ρ.clock watched)
          (watchedKeys ρ.policy record.id claimant.holder)) key unfenced :=
      fun key mem => (covers_watch mem).mono (by omega)
    refine .bind (keeps_readHold (sparing_deed ρ i n₀ c) ?_ ?_ fun _ _ _ => trivial)
    · intro looked lt' unheld
      refine keeps_placeNew acquires ((seen_watch watched _).mono (by omega))
        (Nat.lt_succ_self looked) ?_ (fun p low => placed p _ _ (by omega))
        (fun m _ low => conflict m _ (by omega))
      exact fun m w' low keep alone =>
        ⟨⟨record, rfl, admitted, unfenced, looked, begun, by omega, by omega, by omega, known,
          unbooked, fun key mem => keep _ _ (covers key mem), unmarked.1 rfl,
          .new unheld alone rfl⟩, rfl⟩
    · intro looked lt' hold held
      by_cases own : hold.owner = claimant.holder
      · simp only [andThen, own, if_true]
        refine keeps_place acquires ?_ fun p low => placed p _ _ (by omega)
        exact fun m low =>
          ⟨⟨record, rfl, admitted, unfenced, looked, begun, by omega, by omega, by omega, known,
            unbooked, covers, unmarked.1 rfl, .renewed hold held own rfl⟩, rfl⟩
      · simp only [andThen, own, if_false]
        exact keeps_conflictOver fun m _ low => conflict m _ (by omega)

end attempt

/-- **What an acquire does.** -/
theorem keeps_acquireFor {slot : SlotId} {claimant : Claimant} {ttl : Nat}
    {promise : AcquireOutcome → Nat → Prop} (begun : n₀ < n) (acquires : c.Acquires slot claimant)
    (value : ∀ m o, n ≤ m → promise o m) :
    ρ.Keeps i (ρ.Deed i n₀ c) (okay promise) (acquireFor ρ.policy slot claimant ttl) n := by
  refine .bind_okay (keeps_openSlot ?_)
  intro admitted record le known unbooked
  obtain rfl := (ρ.catalogue admitted).keyed slot record known
  refine .bind_okay (keeps_retrying (sparing_deed ρ i n₀ c) ?_ fun _ _ _ => trivial)
  intro m lt
  refine keeps_tryAcquire (by omega) (by omega) known unbooked acquires ?placed ?conflict
  case placed =>
    intro p hold renewed low grounds
    refine .bind (keeps_count (sparing_deed ρ i n₀ c) ?_)
    intro k low'
    refine .bind (keeps_announce ?_ ?_)
    · exact fun k' low'' => .announce (by omega) (by omega) grounds
    · exact fun k' low'' => value (k' + 1) _ (by omega)
  case conflict =>
    intro m' conflict low
    refine .bind (keeps_count (sparing_deed ρ i n₀ c) ?_)
    exact fun k low' => value (k + 1) _ (by omega)

end Holdfast.Reservation.Run
