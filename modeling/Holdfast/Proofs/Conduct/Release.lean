import Holdfast.Proofs.Interleaving.Deed
import Holdfast.Proofs.Store.Written

/-!
# What a release does

A release takes away a hold that it found and owns, with the entries that named its slot after that;
or it clears entries that name a slot without a hold. The attempt to take a hold away is shared with
the end of a commit, which takes away whatever hold is left.
-/

namespace Holdfast.Reservation.Run

variable {ρ : Run} {i n₀ n : Nat} {c : Call} {α : Type} {pledge : Nat → Effect → Prop}

/-- Whatever nobody notices may be done. -/
theorem sparing_deed (ρ : Run) (i n₀ : Nat) (c : Call) : Sparing (ρ.Deed i n₀ c) :=
  fun _ _ h => .spare h

/-! ## Entries that go with a hold -/

/-- Deletes gathered so far: one that comes first, and then some of entries that named the slot. -/
def Gathered (ρ : Run) (slot : SlotId) (keys : List String) (first : Write) (looked n : Nat)
    (w : Watch) (writes : List Write) : Prop :=
  ∃ stale : List String, writes = first :: stale.map .delete ∧
    ∀ key ∈ stale, key ∈ keys ∧
      ∃ b, looked < b ∧ b < n ∧ ρ.Covers w key b ∧ ρ.Names b key slot

/-- What has been gathered stays when other watches are merged in. -/
theorem Gathered.merge {slot : SlotId} {keys : List String} {first : Write} {looked m : Nat}
    {w : Watch} {writes : List Write} (h : ρ.Gathered slot keys first looked n w writes)
    (later : Watch) (le : n ≤ m) : ρ.Gathered slot keys first looked m (w.merge later) writes := by
  obtain ⟨stale, eq, named⟩ := h
  refine ⟨stale, eq, ?_⟩
  intro key mem
  obtain ⟨index, b, low, high, covers, names⟩ := named key mem
  exact ⟨index, b, low, by omega, covers.merge later, names⟩

/-- One more delete of an entry that named the slot. -/
theorem Gathered.push {slot : SlotId} {keys : List String} {first : Write} {looked b : Nat}
    {w : Watch} {writes : List Write} (h : ρ.Gathered slot keys first looked n w writes)
    {key : String} (index : key ∈ keys) (low : looked < b) (high : b < n)
    (covers : ρ.Covers w key b) (names : ρ.Names b key slot) :
    ρ.Gathered slot keys first looked n w (writes ++ [.delete key]) := by
  obtain ⟨stale, rfl, named⟩ := h
  refine ⟨stale ++ [key], by simp, ?_⟩
  intro key' mem
  rcases List.mem_append.1 mem with mem | mem
  · exact named key' mem
  · obtain rfl := List.mem_singleton.1 mem
    exact ⟨index, b, low, high, covers, names⟩

/-- Gathering the deletes of a list of keys. -/
theorem keeps_staleDeletes {slot : SlotId} {all keys : List String} {first : Write} {looked : Nat}
    {w : Watch} {writes : List Write} {promise : Except Failure (Watch × List Write) → Nat → Prop}
    (sparing : Sparing pledge) (index : ∀ key ∈ keys, key ∈ all) (seen : ρ.Seen w n)
    (late : looked < n) (gathered : ρ.Gathered slot all first looked n w writes)
    (value : ∀ m w' writes', n ≤ m → ρ.Gathered slot all first looked m w' writes' →
      (∀ key b, ρ.Covers w key b → ρ.Covers w' key b) → promise (.ok (w', writes')) m)
    (error : ∀ m, n ≤ m → ∀ e, promise (.error e) m) :
    ρ.Keeps i pledge promise (staleDeletes slot w writes keys) n := by
  induction keys generalizing n w writes with
  | nil => exact value n w writes (Nat.le_refl n) gathered fun _ _ => id
  | cons key keys ih =>
    have rest : ∀ m k writes', n ≤ m → m < k →
        ρ.Gathered slot all first looked k
          (w.merge ((ρ.store m).watch (ρ.clock m) [key])) writes' →
        ρ.Keeps i pledge promise
          (staleDeletes slot (w.merge ((ρ.store m).watch (ρ.clock m) [key])) writes' keys) k := by
      intro m k writes' le lt gathered'
      refine ih (fun key' mem => index key' (List.mem_cons_of_mem _ mem)) ?_ (by omega) gathered'
        ?_ (fun m' le' => error m' (by omega))
      · exact (seen.mono (by omega)).merge ((seen_watch m [key]).mono (by omega))
      · intro m' w' writes'' le' gathered'' keep
        exact value m' w' writes'' (by omega) gathered'' fun key' b covers =>
          keep key' b (covers.merge _)
    refine .bind (keeps_watch sparing ?_ error)
    intro m le
    refine .bind (keeps_readIndex sparing ?_ ?_ fun m' le' => error m' (by omega))
    · intro m' le' absent
      exact rest m (m' + 1) writes le (by omega) (gathered.merge _ (by omega))
    · intro m' le' slot' names
      by_cases same : slot' = slot
      · subst same
        have covers := (covers_merge_watch (seen.mono le) (List.mem_singleton_self key)).mono
          (show m ≤ m' by omega)
        simp only [andThen, if_true]
        exact rest m (m' + 1) _ le (by omega) ((gathered.merge _ (by omega)).push
          (index key List.mem_cons_self) (by omega) (by omega) covers names)
      · simp only [andThen, Option.some.injEq, same, if_false]
        exact rest m (m' + 1) writes le (by omega) (gathered.merge _ (by omega))

/-! ## Taking a hold away -/

/-- Taking away a hold that was looked at. -/
theorem keeps_removeHold {w : Watch} {slot : SlotId} {hold : HoldRecord} {a : α} {looked : Nat}
    {promise : Except Failure (Option α) → Nat → Prop} (sparing : Sparing pledge)
    (begun : n₀ < looked) (late : looked < n) (seen : ρ.Seen w n)
    (covers : ρ.Covers w (Key.hold slot) looked) (held : ρ.Holds looked slot hold)
    (effect : ∀ m w' writes, n ≤ m → ρ.Removal n₀ m slot w' hold writes →
      pledge m (.store (.exec w' writes)))
    (committed : ∀ m w' writes, n ≤ m → ρ.Removal n₀ m slot w' hold writes →
      ρ.Commits m i w' writes → promise (.ok (some a)) (m + 1))
    (aborted : ∀ m, n ≤ m → promise (.ok none) m)
    (error : ∀ m, n ≤ m → ∀ e, promise (.error e) m) :
    ρ.Keeps i pledge promise (removeHold w slot hold a) n := by
  have nothing : ρ.Gathered hold.slot (indexKeys hold.owner hold.session) (.delete (Key.hold slot))
      looked n w [.delete (Key.hold slot)] := ⟨[], rfl, by simp⟩
  refine .bind (keeps_staleDeletes sparing (fun _ => id) seen late nothing ?_ error)
  rintro m w' writes' le gathered keep
  have grounds : ∀ m', m ≤ m' → Nonempty (ρ.Removal n₀ m' slot w' hold writes') := by
    obtain ⟨stale, rfl, named⟩ := gathered
    intro m' le'
    refine ⟨looked, begun, by omega, keep _ _ covers, held, stale, rfl, ?_⟩
    intro key mem
    obtain ⟨index, b, low, high, covers', names⟩ := named key mem
    exact ⟨index, b, low, by omega, covers', names⟩
  refine keeps_transact ?_ ?_ (fun m' le' => aborted m' (by omega))
    (fun m' le' => error m' (by omega))
  · intro m' le'
    obtain ⟨removal⟩ := grounds m' le'
    exact effect m' w' writes' (by omega) removal
  · intro m' le' commits
    obtain ⟨removal⟩ := grounds m' le'
    exact committed m' w' writes' (by omega) removal commits

/-! ## Releasing -/

/-- One attempt to release a slot: if it says so, the last move took a hold away. -/
theorem keeps_tryRelease {slot : SlotId} {claimant : Claimant}
    {promise : ReleaseOutcome → Nat → Prop} (begun : n₀ < n) (releases : c.Releases slot claimant)
    (released : ∀ p day, n ≤ p → ρ.Announcing i n₀ c p (.released slot day) →
      promise (.released day) (p + 1))
    (noHold : ∀ m, n ≤ m → promise .noHold m) (notOwner : ∀ m, n ≤ m → promise .notOwner m) :
    ρ.Keeps i (ρ.Deed i n₀ c) (tried (okay promise)) (tryRelease slot claimant) n := by
  refine .bind (keeps_watch (sparing_deed ρ i n₀ c) ?_ fun _ _ _ => trivial)
  intro m le
  refine .bind (keeps_readHold (sparing_deed ρ i n₀ c) ?_ ?_ fun _ _ _ => trivial)
  · exact fun m' le' _ => noHold (m' + 1) (by omega)
  · intro m' le' hold held
    have covers := (covers_watch (ρ := ρ) (b := m) (List.mem_singleton_self (Key.hold slot))).mono
      (show m ≤ m' by omega)
    cases owned : hold.isOwnedBy claimant with
    | false =>
      simp only [andThen, owned]
      exact notOwner (m' + 1) (by omega)
    | true =>
      simp only [andThen, owned, if_true]
      exact keeps_removeHold (sparing_deed ρ i n₀ c) (by omega) (Nat.lt_succ_self m')
        ((seen_watch m _).mono (by omega)) covers held
        (fun _ _ _ _ grounds => .remove (.inl ⟨claimant, releases, owned⟩) grounds)
        (fun p _ _ low grounds commits =>
          released p _ (by omega) (.released releases owned grounds commits))
        (fun _ _ => trivial) (fun _ _ _ => trivial)

/-- Clearing entries that name a slot without a hold. -/
theorem keeps_clearDangling {slot : SlotId} {claimant : Claimant} {keys : List String}
    {promise : Unit → Nat → Prop} (begun : n₀ < n) (releases : c.Releases slot claimant)
    (index : ∀ key ∈ keys, key ∈ indexKeys claimant.holder claimant.session)
    (value : ∀ m, n ≤ m → promise () m) :
    ρ.Keeps i (ρ.Deed i n₀ c) (okay promise) (clearDangling slot keys) n := by
  induction keys generalizing n with
  | nil => exact value n (Nat.le_refl n)
  | cons key keys ih =>
    have rest : ∀ m, n ≤ m → ρ.Keeps i (ρ.Deed i n₀ c) (okay promise) (clearDangling slot keys) m :=
      fun m le => ih (by omega) (fun key' mem => index key' (List.mem_cons_of_mem _ mem))
        (fun m' le' => value m' (by omega))
    refine .bind (keeps_watch (sparing_deed ρ i n₀ c) ?_ fun _ _ _ => trivial)
    intro m le
    refine .bind (keeps_readIndex (sparing_deed ρ i n₀ c) ?_ ?_ fun _ _ _ => trivial)
    · exact fun m' le' _ => rest (m' + 1) (by omega)
    · intro m' le' slot' names
      by_cases same : slot' = slot
      · subst same
        have covers := (covers_watch (ρ := ρ) (b := m) (List.mem_singleton_self key)).mono
          (show m ≤ m' by omega)
        simp only [andThen, if_true]
        refine .bind (keeps_ask ?_ ?_ fun _ _ _ => trivial)
        · exact fun k low => .clear releases (index key List.mem_cons_self) m' (by omega) (by omega)
            covers names
        · exact fun k low _ _ => rest (k + 1) (by omega)
      · simp only [andThen, Option.some.injEq, same, if_false]
        exact rest (m' + 1) (by omega)

/-- **What a release does.** -/
theorem keeps_release {policy : Policy} {slot : SlotId} {claimant : Claimant}
    {promise : ReleaseOutcome → Nat → Prop} (begun : n₀ < n) (releases : c.Releases slot claimant)
    (value : ∀ m o, n ≤ m → promise o m) :
    ρ.Keeps i (ρ.Deed i n₀ c) (okay promise) (release policy slot claimant) n := by
  refine .bind_okay (keeps_retrying (sparing_deed ρ i n₀ c) ?_ fun _ _ _ => trivial)
  intro m le
  refine keeps_tryRelease (by omega) releases ?released ?noHold ?notOwner
  case released =>
    intro p day le' grounds
    refine .bind (keeps_count (sparing_deed ρ i n₀ c) ?_)
    intro m' le''
    refine .bind (keeps_announce ?_ ?_)
    · exact fun k low => .announce (by omega) (by omega) grounds
    · exact fun k low => value (k + 1) _ (by omega)
  case noHold =>
    intro m' le'
    refine .bind (keeps_count (sparing_deed ρ i n₀ c) ?_)
    intro k low
    refine .bind_okay (keeps_clearDangling (by omega) releases (fun _ => id) ?_)
    exact fun k' low' => value k' _ (by omega)
  case notOwner =>
    intro m' le'
    refine .bind (keeps_count (sparing_deed ρ i n₀ c) ?_)
    exact fun k low => value (k + 1) _ (by omega)

end Holdfast.Reservation.Run
