import Holdfast.Proofs.Conduct.Contents
import Holdfast.Proofs.Conduct.Passage
import Holdfast.Proofs.Guarantees.CommitSoundness

/-!
# Whether a release is counted once

A release that says so has taken a hold away in one transaction and has told the room once. The
transaction rests on what was on the slot when the attempt began. If that was a hold, it is still
there, and the claimant owns it. But a watch that saw no hold is satisfied by no hold: then the hold
that the attempt found came later and is gone again, and the release is counted for nothing.

* `Frees`: what a release that says so has done, and at which moves.
* `released_own_iff`: it took away a live hold of its claimant exactly if there was a live hold when
  it watched the slot; and then no release before took away the same one.
* `released_without_hold`: a run in which two releases say that they released the slot, and it was
  held once.
-/

namespace Holdfast.Reservation

open Program

namespace Run

variable {ρ : Run} {i b n m : Nat} {slot : SlotId} {claimant : Claimant} {day : Day}

/-! ## How a release takes a hold away -/

/-- Gathering deletes drops nothing from the watch. -/
theorem mem_of_staleDeletes {t : List Heard} {w w' : Watch} {writes writes' : List Write}
    {keys : List String} {seen : String × Option Nat}
    (ends : (staleDeletes slot w writes keys).Ends t (.ok (w', writes')))
    (mem : seen ∈ w.versions) : seen ∈ w'.versions := by
  induction keys generalizing w writes t with
  | nil =>
    obtain ⟨-, eq⟩ := ends_done.1 ends
    rwa [(Prod.mk.inj (Except.ok.inj eq)).1]
  | cons key keys ih =>
    obtain ⟨_, _, later, -, -, rest⟩ := ends_bind_ok.1 ends
    obtain ⟨_, _, named, -, -, rest'⟩ := ends_bind_ok.1 rest
    split at rest' <;> exact ih rest' (Watch.mem_merge mem later)

/-- **A release that says so took a hold away**: it watched the slot at `a`, found a hold of the
claimant after that, and committed the only transaction of its own at `p`. It told the room once. -/
structure Frees (ρ : Run) (i b n : Nat) (slot : SlotId) (claimant : Claimant) (day : Day)
    (a p : Nat) : Prop where
  begun : b ≤ a
  found : ∃ k hold, a < k ∧ k < p ∧ ρ.Holds k slot hold ∧ hold.isOwnedBy claimant = true ∧
    hold.day = day
  within : p < n
  commits : ∃ w stale, ρ.Commits p i w (.delete (Key.hold slot) :: List.map .delete stale) ∧
    ρ.Saw a (Key.hold slot) w
  once : ∀ q w writes, b ≤ q → q < n → ρ.Commits q i w writes → q = p
  told : events (ρ.heard i b n) = [.released slot day]

/-- An attempt that released a slot took a hold away that it had found to be the claimant's. -/
theorem passes_tryRelease {day : Day}
    (h : ρ.Passes i b n (tryRelease slot claimant) (.ok (some (.released day)))) :
    ∃ a k p hold w stale, b ≤ a ∧ a < k ∧ k < p ∧ p < n ∧ ρ.Holds k slot hold ∧
      hold.isOwnedBy claimant = true ∧ hold.day = day ∧
      ρ.Commits p i w (.delete (Key.hold slot) :: List.map .delete stale) ∧
      ρ.Saw a (Key.hold slot) w := by
  obtain ⟨m₁, w, watched, rest⟩ := passes_bind_ok h
  obtain ⟨a, low, before, rfl⟩ := passes_watch watched
  obtain ⟨m₂, found, looked, rest'⟩ := passes_bind_ok rest
  obtain ⟨k, after, between, held⟩ := passes_readHold looked
  cases found with
  | none => cases passes_done rest'
  | some hold =>
    dsimp only at rest' held
    split at rest'
    · rename_i owned
      obtain ⟨m₃, ⟨w, writes⟩, gathered, last⟩ := passes_bind_ok rest'
      obtain ⟨stale, rfl⟩ := ends_staleDeletes gathered.2
      obtain ⟨value, p, late, high, commits⟩ := passes_transact last
      have first : ρ.Saw a (Key.hold slot) ((ρ.store a).watch (ρ.clock a) [Key.hold slot]) :=
        List.mem_singleton_self _
      have le := gathered.1
      exact ⟨a, k, p, hold, w, stale, low, by omega, by omega, high, held, owned,
        (ReleaseOutcome.released.inj value).symm, commits, mem_of_staleDeletes gathered.2 first⟩
    · cases passes_done rest'

/-- What a call has committed is among what it has heard. -/
theorem commits_mem_heard {q : Nat} {w : Watch} {writes : List Write} (low : b ≤ q) (high : q < n)
    (commits : ρ.Commits q i w writes) : ∃ h ∈ ρ.heard i b n, h.commits = true :=
  ⟨committed w writes, mem_heard.2 ⟨q, low, high, commits.hears⟩, rfl⟩

/-- A release that says so committed at one move only, and told the room once. -/
theorem once_of_passes {policy : Policy}
    (passes : ρ.Passes i b n (release policy slot claimant) (.ok (.released day))) :
    (∃ p, ∀ q w writes, b ≤ q → q < n → ρ.Commits q i w writes → q = p) ∧
      events (ρ.heard i b n) = [.released slot day] := by
  obtain ⟨le, ends⟩ := passes
  generalize heard : ρ.heard i b n = t at ends
  cases releasing_of_ends ends with
  | kept silent kept => exact (kept _ rfl).elim
  | released w stale before silent owned =>
    obtain ⟨p, low, high, -, first, last⟩ := heard_split le heard
    refine ⟨⟨p, ?_⟩, by rw [events_append, silent]; rfl⟩
    intro q w' writes early late commits
    rcases Nat.lt_trichotomy q p with lt | same | gt
    · obtain ⟨h, mem, commits⟩ := commits_mem_heard early lt commits
      rw [before h (first ▸ mem)] at commits
      cases commits
    · exact same
    · obtain ⟨h, mem, commits⟩ := commits_mem_heard (Nat.succ_le_of_lt gt) late commits
      rw [last] at mem
      simp only [List.mem_cons, List.not_mem_nil, or_false] at mem
      rcases mem with rfl | rfl <;> cases commits

/-- **A release that says so took a hold away.** -/
theorem frees_of_passes {policy : Policy}
    (passes : ρ.Passes i b n (release policy slot claimant) (.ok (.released day))) :
    ∃ a p, ρ.Frees i b n slot claimant day a p := by
  obtain ⟨m₁, outcome, tried, rest⟩ := passes_bind_ok passes
  obtain ⟨m₂, ⟨⟩, counted, rest'⟩ := passes_bind_ok rest
  have same : outcome = .released day := by
    cases outcome with
    | released day' =>
      obtain ⟨m₃, ⟨⟩, told, last⟩ := passes_bind_ok rest'
      exact (passes_done last).symm
    | noHold =>
      obtain ⟨m₃, ⟨⟩, cleared, last⟩ := passes_bind_ok rest'
      cases passes_done last
    | notOwner => cases passes_done rest'
  subst same
  obtain ⟨m₀, low, attempt⟩ := passes_retrying tried
  obtain ⟨a, k, p, hold, w, stale, begun, lt, lt', high, held, owned, day_eq, commits, saw⟩ :=
    passes_tryRelease attempt
  obtain ⟨⟨p', once⟩, told⟩ := once_of_passes passes
  have within : p < n := Nat.lt_of_lt_of_le high rest.1
  obtain rfl := once p w _ (by omega) within commits
  exact ⟨a, p, by omega, ⟨k, hold, lt, lt', held, owned, day_eq⟩, within, ⟨w, stale, commits, saw⟩,
    once, told⟩

/-! ## Whose hold it is -/

/-- A hold that a release took away and that is there again was placed in between. -/
theorem places_of_stored {e : Entry} (le : m ≤ n) (gone : ρ.stored? m (Key.hold slot) = none)
    (there : ρ.stored? n (Key.hold slot) = some e) :
    ∃ q claimant hold ttl, m ≤ q ∧ q < n ∧ ρ.Places q slot claimant hold ttl := by
  induction le generalizing e with
  | refl => cases gone.symm.trans there
  | @step n le ih =>
    rcases hold_stored_succ there with before | ⟨claimant, hold, ttl, places, -, -⟩
    · obtain ⟨q, claimant, hold, ttl, low, high, places⟩ := ih before
      exact ⟨q, claimant, hold, ttl, low, Nat.lt_succ_of_lt high, places⟩
    · exact ⟨n, claimant, hold, ttl, le, Nat.lt_succ_self n, places⟩

namespace Frees

variable {a p : Nat} (frees : ρ.Frees i b n slot claimant day a p)

include frees

/-- The hold is gone when it was taken away. -/
theorem gone : ρ.stored? (p + 1) (Key.hold slot) = none := by
  obtain ⟨w, stale, commits, -⟩ := frees.commits
  rw [stored?, (store_of_commits commits).2, ← List.map_cons]
  exact Store.get?_deletes List.mem_cons_self

/-- There was a hold to take away exactly if there was one when the slot was watched. -/
theorem unheld_iff : ρ.Unheld p slot ↔ ρ.Unheld a slot := by
  obtain ⟨w, stale, commits, saw⟩ := frees.commits
  rw [unheld_iff_version, unheld_iff_version, Store.version?_of_agrees saw commits.2]

/-- If there was a hold to take away, it was the one that was found, and the claimant's. -/
theorem owns_iff : ρ.Owns p slot claimant ↔ ¬ ρ.Unheld p slot := by
  obtain ⟨w, stale, commits, saw⟩ := frees.commits
  obtain ⟨k, hold, after, before, held, owned, -⟩ := frees.found
  constructor
  · rintro ⟨hold', held', -⟩
    exact not_unheld_of_holds held'
  · intro live
    have covers : ρ.Covers w (Key.hold slot) k := ⟨a, Nat.le_of_lt after, saw⟩
    rcases unheld_or_holds covers (Nat.le_of_lt before) commits.2 with unheld | stays
    · exact absurd unheld live
    · exact ⟨hold, stays hold held, owned⟩

end Frees

/-- **Whether a release is counted once.** A release that says so has taken a hold away in the only
transaction that it committed, and has told the room once. At that instant its claimant owned a live
hold on the slot if and only if there was a live hold when the release watched the slot, and else
there was none. In the first case every hold that another release took away before was another one:
an acquire placed a hold in between. -/
theorem released_own_iff
    (passes : ρ.Passes i b n (release ρ.policy slot claimant) (.ok (.released day))) :
    ∃ a p, ρ.Frees i b n slot claimant day a p ∧
      (ρ.Owns p slot claimant ↔ ¬ ρ.Unheld a slot) ∧ (ρ.Unheld p slot ↔ ρ.Unheld a slot) ∧
      (¬ ρ.Unheld a slot →
        ∀ i' b' n' claimant' day' a' p', ρ.Frees i' b' n' slot claimant' day' a' p' → p' < p →
          ∃ q claimant'' hold ttl, p' < q ∧ q < p ∧ ρ.Places q slot claimant'' hold ttl) := by
  obtain ⟨a, p, frees⟩ := frees_of_passes passes
  refine ⟨a, p, frees, ?_, frees.unheld_iff, ?_⟩
  · rw [frees.owns_iff, frees.unheld_iff]
  · intro live i' b' n' claimant' day' a' p' earlier lt
    rw [← frees.unheld_iff, Unheld, read?_eq_none_iff] at live
    obtain ⟨e, there⟩ := Option.ne_none_iff_exists'.1 live
    exact places_of_stored lt earlier.gone (live?_iff_stored.1 there).1

/-! ## A release that is counted for nothing -/

/-- The day for which a call has returned that it released a slot. -/
def released? (ρ : Run) (n i : Nat) : Option Day :=
  (ρ.state n).calls[i]?.bind fun r =>
    match r.rest with
    | .done (.release (.released day)) => some day
    | _ => none

/-- A call that has returned that it released a slot has gone through a release. -/
theorem passes_of_released {n₀ : Nat} (begins : ρ.Begins n₀ i (.release slot claimant))
    (later : n₀ < n) (h : ρ.released? n i = some day) :
    ρ.Passes i (n₀ + 1) n (release ρ.policy slot claimant) (.ok (.released day)) := by
  obtain ⟨r, there, answers⟩ := Option.bind_eq_some_iff.1 h
  split at answers
  · rename_i day' finished
    obtain rfl := Option.some.inj answers
    obtain ⟨o, passes, answer⟩ := passes_of_returned rfl begins later ⟨r, there, finished⟩
    exact Answer.release.inj answer ▸ passes
  · cases answers

/-- A release watches a free slot; then its claimant acquires the slot, so that the release finds the
hold; then the claimant releases the slot a second time, and the transaction of the first release
finds it as free as it was watched. -/
def repeating : Run :=
  offering [1]
    ([.begin (.release 1 { holder := ⟨"a"⟩ }), .proceed 0,
        .begin (.acquire 1 { holder := ⟨"a"⟩ } 120000)] ++ List.replicate 9 (.proceed 1) ++
      [.proceed 0, .begin (.release 1 { holder := ⟨"a"⟩ })] ++ List.replicate 7 (.proceed 2) ++
      List.replicate 5 (.proceed 0))

theorem repeating_passes : repeating.Passes 0 1 26 (release {} 1 { holder := ⟨"a"⟩ })
    (.ok (.released openingDay)) :=
  passes_of_released ⟨rfl, rfl⟩ (by decide) (by decide +kernel)

theorem repeating_commits :
    repeating.Commits 23 0 ⟨[("hold:1", none), ("holder:a", none)]⟩ [.delete (Key.hold 1)] :=
  ⟨⟨rfl, by decide +kernel⟩, by decide +kernel⟩

/-- The first release says that it released the slot, and there was no hold that it took away, as
there was none when it watched the slot. -/
theorem repeating_releases_nothing :
    repeating.Passes 0 1 26 (release {} 1 { holder := ⟨"a"⟩ }) (.ok (.released openingDay)) ∧
      ∃ a p, repeating.Unheld a 1 ∧ repeating.Unheld p 1 ∧
        ¬ repeating.Owns p 1 { holder := ⟨"a"⟩ } := by
  refine ⟨repeating_passes, ?_⟩
  obtain ⟨a, p, frees, owns, unheld, -⟩ := released_own_iff repeating_passes
  have here : p = 23 :=
    (frees.once 23 _ _ (by decide) (by decide) repeating_commits).symm
  have none_held : repeating.Unheld p 1 := by
    rw [here, Unheld]
    decide +kernel
  exact ⟨a, p, unheld.1 none_held, none_held, fun owned => owns.1 owned (unheld.1 none_held)⟩

/-- A release can say that it released a slot though it took no live hold away. -/
theorem released_without_hold :
    ¬ (∀ (ρ : Run) (i b n : Nat) (slot : SlotId) (claimant : Claimant) (day : Day),
        ρ.Passes i b n (release ρ.policy slot claimant) (.ok (.released day)) →
          ∃ p w writes, b ≤ p ∧ p < n ∧ ρ.Commits p i w writes ∧
            .delete (Key.hold slot) ∈ writes ∧ ρ.Owns p slot claimant) := by
  intro always
  obtain ⟨p, w, writes, low, high, commits, -, hold, held, -⟩ :=
    always repeating 0 1 26 1 { holder := ⟨"a"⟩ } openingDay repeating_passes
  obtain ⟨a, p', frees⟩ := frees_of_passes repeating_passes
  have here : p = 23 := (frees.once p w writes low high commits).trans
    (frees.once 23 _ _ (by decide) (by decide) repeating_commits).symm
  have unheld : repeating.Unheld p 1 := by
    rw [here, Unheld]
    decide +kernel
  exact not_unheld_of_holds held unheld

end Run
end Holdfast.Reservation
