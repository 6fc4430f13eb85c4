import Holdfast.Proofs.Conduct.Contents
import Holdfast.Proofs.Conduct.Passage

/-!
# An acquire is all or nothing

An acquire looks at the store as often as it likes, but writes to it in one transaction only, and
that transaction has everything in it: the hold and the entries that go with it, with one deadline.
As long as none is committed the acquire may fail in any way, and then it leaves no trace; once one
is, nothing can fail any more.

* `Serves`: a move at which a call gets a reply. `store_of_serves`: such a move changes the store
  only if it commits a transaction or writes outside of one.
* `Lays`: a move writes a hold with what goes with it.
* `acquire_all_or_nothing`: when an acquire changes the store, and how.
-/

namespace Holdfast.Reservation

open Program

/-- A transaction, or an effect that leaves the store and the catalogue as they are. -/
def Effect.Transacts (e : Effect) : Prop := e.execs = true ∨ e.spares = true

/-- What is a look or a transaction writes outside of no transaction. -/
theorem Effect.transacts_of_tries {e : Effect} (h : e.tries = true) : e.Transacts := by
  unfold tries at h
  split at h
  · exact .inl rfl
  · exact .inr (Effect.spares_of_looks h)

/-- An acquire writes outside of no transaction. -/
theorem transacts_acquireFor (policy : Policy) (slot : SlotId) (claimant : Claimant) (ttl : Nat) :
    (acquireFor policy slot claimant ttl).Only Effect.Transacts := by
  have tries : ∀ {α : Type} {p : Program Failure α}, p.Tries → p.Only Effect.Transacts :=
    fun h => h.mono fun _ => Effect.transacts_of_tries
  refine (tries (looks_openSlot slot).tries).bind fun record => ?_
  refine (tries (tries_tryUpTo (tries_tryAcquire policy record claimant ttl) _)).bind fun outcome => ?_
  cases outcome with
  | acquired hold ttl renewed => exact ⟨.inr rfl, fun _ => ⟨.inr rfl, fun _ => trivial⟩⟩
  | conflict c => exact ⟨.inr rfl, fun _ => trivial⟩

namespace Run

variable {ρ : Run} {i b n p : Nat} {slot : SlotId} {claimant : Claimant} {hold : HoldRecord}
  {ttl : Nat}

/-- The move is for the call: what it waits for is carried out, or fails. -/
def Serves (ρ : Run) (n i : Nat) : Prop :=
  ρ.moves n = .proceed i ∨ ∃ fault, ρ.moves n = .fail i fault

/-- **A move for a call changes the store only if it commits a transaction**, where the call writes
outside of no transaction. -/
theorem store_of_serves (serves : ρ.Serves n i)
    (idle : ∀ h, ρ.hearing i n = some h → h.effect.Transacts ∧ h.commits = false) :
    ρ.store (n + 1) = ρ.store n := by
  rcases ρ.store_succ n with ⟨j, r, performs, -, after⟩ | same
  · have mine : j = i := by
      rcases serves with move | ⟨fault, move⟩
      · exact Move.proceed.inj (performs.1.symm.trans move)
      · cases performs.1.symm.trans move
    subst mine
    obtain ⟨kind, aborted⟩ := idle ⟨.store r, _⟩ (hearing_eq_some.2 performs.hears)
    rw [after]
    cases r with
    | exec w writes =>
      refine Store.exec_of_aborted ?_
      cases outcome : ((ρ.store n).exec (ρ.clock n) w writes).1 with
      | aborted => rfl
      | committed =>
        have reply : ((ρ.world n).perform (.store (.exec w writes))).1 = .ok .committed :=
          congrArg Except.ok outcome
        simp [reply, Heard.commits] at aborted
    | tryCreate key value ttl => simp [Effect.Transacts, Effect.execs, Effect.spares] at kind
    | refresh key value ttl => simp [Effect.Transacts, Effect.execs, Effect.spares] at kind
    | delete key => simp [Effect.Transacts, Effect.execs, Effect.spares] at kind
    | evict => simp [Effect.Transacts, Effect.execs, Effect.spares] at kind
    | _ => rfl
  · exact same

/-! ## Writing a hold -/

/-- **The move writes a hold**, in one transaction of the call: the hold, the holder's entry if a
holder may hold one slot only, and the connection's if the hold has one, all with one deadline; and
nothing else. -/
structure Lays (ρ : Run) (p i : Nat) (slot : SlotId) (claimant : Claimant) (hold : HoldRecord)
    (ttl : Nat) : Prop where
  commits : ∃ w, ρ.Commits p i w (placing ρ.policy hold slot claimant.holder ttl)
  held : ∃ v, ρ.stored? (p + 1) (Key.hold slot) = some ⟨hold.encode, ρ.clock p + ttl, v⟩
  named : ρ.policy.singleHold = true →
    ∃ v, ρ.stored? (p + 1) (Key.holder claimant.holder) =
      some ⟨SlotId.text slot, ρ.clock p + ttl, v⟩
  connected : ∀ session, hold.session = some session →
    ∃ v, ρ.stored? (p + 1) (Key.session session) = some ⟨SlotId.text slot, ρ.clock p + ttl, v⟩
  others : ∀ key, Key.hold slot ≠ key →
    (ρ.policy.singleHold = true → Key.holder claimant.holder ≠ key) →
    (∀ session, hold.session = some session → Key.session session ≠ key) →
    ρ.stored? (p + 1) key = ρ.stored? p key

/-- A transaction that has the writes of an acquire writes a hold. -/
theorem Lays.of_commits {w : Watch}
    (commits : ρ.Commits p i w (placing ρ.policy hold slot claimant.holder ttl)) :
    ρ.Lays p i slot claimant hold ttl where
  commits := ⟨w, commits⟩
  held := by
    rw [stored?, (store_of_commits commits).2]
    exact ⟨_, get?_placing_hold⟩
  named := by
    intro single
    rw [stored?, (store_of_commits commits).2]
    exact ⟨_, get?_placing_holder single⟩
  connected := by
    intro session there
    rw [stored?, (store_of_commits commits).2]
    exact get?_placing_session there
  others := by
    intro key hold_ne holder_ne session_ne
    rw [stored?, (store_of_commits commits).2, stored?]
    exact Store.get?_writes_ne (misses_placing_of_ne hold_ne holder_ne session_ne)

/-- Writing a hold changes the store: the hold has a version of its own. -/
theorem Lays.store_ne (lays : ρ.Lays p i slot claimant hold ttl) :
    ρ.store (p + 1) ≠ ρ.store p := by
  intro same
  obtain ⟨w, commits⟩ := lays.commits
  have before := same.symm.trans (store_of_commits commits).2
  have there : (ρ.store p).entries.get? (Key.hold slot) =
      some ⟨hold.encode, ρ.clock p + ttl, (ρ.store p).writes + 1⟩ :=
    (congrArg (·.entries.get? (Key.hold slot)) before).trans get?_placing_hold
  exact Nat.not_succ_le_self _ (ρ.numbered p _ _ there)

/-! ## What an acquire leaves behind -/

/-- Moves for a call that has heard of no commit change nothing, where the call writes outside of no
transaction. -/
theorem store_of_uncommitted {k : Nat} {t : List Heard} (heard : ρ.heard i b n = t)
    (kinds : ∀ h ∈ t, h.effect.Transacts) (nothing : Uncommitted t) (low : b ≤ k) (high : k < n)
    (serves : ρ.Serves k i) : ρ.store (k + 1) = ρ.store k := by
  refine store_of_serves serves ?_
  intro h now
  have mem : h ∈ t := heard ▸ mem_heard.2 ⟨k, low, high, hearing_eq_some.1 now⟩
  exact ⟨kinds h mem, nothing h mem⟩

/-- **An acquire is all or nothing.** Whatever goes on around it and whatever fails, an acquire asks
for no more transactions than the policy allows tries. When it is over, it has changed the store if
and only if it acquired the slot. In this case it changed the store at one move, at which it wrote a
hold of the claimant with what goes with it, for the time that was asked for; then, and not before,
it announced that the slot is held on the day that the catalogue had for it, and it announced nothing
else. In every other case it announced nothing. -/
theorem acquire_all_or_nothing {rest : Program Failure AcquireOutcome}
    (reaches : ρ.Reaches i b n (acquireFor ρ.policy slot claimant ttl) rest) :
    (ρ.heard i b n).countP (·.effect.execs) + (rest.pending?.any Effect.execs).toNat ≤
      ρ.policy.maxAttempts ∧
    ∀ r, rest = .ended r →
      ((∃ k, b ≤ k ∧ k < n ∧ ρ.Serves k i ∧ ρ.store (k + 1) ≠ ρ.store k) ↔
        ∃ hold ttl' renewed, r = .ok (.acquired hold ttl' renewed)) ∧
      (∀ hold ttl' renewed, r = .ok (.acquired hold ttl' renewed) →
        ttl' = ttl ∧ hold.owner = claimant.holder ∧ ∃ p, b ≤ p ∧ p < n ∧
          ρ.Lays p i slot claimant hold ttl ∧
          (∀ k, b ≤ k → k < n → ρ.Serves k i → k ≠ p → ρ.store (k + 1) = ρ.store k) ∧
          events (ρ.heard i b (p + 1)) = [] ∧
          ∃ q record, b ≤ q ∧ q < p ∧ (ρ.catalogue q).get? slot = some record ∧
            events (ρ.heard i (p + 1) n) = [.held slot record.day (secondsUp ttl)]) ∧
      ((∀ hold ttl' renewed, r ≠ .ok (.acquired hold ttl' renewed)) →
        events (ρ.heard i b n) = []) := by
  obtain ⟨le, left⟩ := reaches
  constructor
  · obtain ⟨bound, later⟩ := (atMost_acquireFor ttl).after left
    cases rest with
    | ask e next =>
      have now := later.1
      change (ρ.heard i b n).countP (·.effect.execs) + e.execs.toNat ≤ _
      omega
    | _ => simpa [pending?] using bound
  · rintro r rfl
    have kinds := (transacts_acquireFor ρ.policy slot claimant ttl).ends left
    generalize heard : ρ.heard i b n = t at left kinds
    cases acquiring_of_ends left with
    | refused nothing silent refused =>
      have no : ∀ hold ttl' renewed, r ≠ .ok (.acquired hold ttl' renewed) := by
        rintro hold ttl' renewed rfl
        exact refused _ rfl
      refine ⟨iff_of_false ?_ fun ⟨hold, ttl', renewed, eq⟩ => no hold ttl' renewed eq,
        fun hold ttl' renewed eq => absurd eq (no hold ttl' renewed), fun _ => silent⟩
      rintro ⟨k, low, high, serves, changed⟩
      exact changed (store_of_uncommitted heard kinds nothing low high serves)
    | @acquired t₀ w record hold renewed known before silent own =>
      obtain ⟨p, low, high, hears, first, last⟩ := heard_split le heard
      obtain ⟨q, early, late, found⟩ := mem_heard.1 (first ▸ known)
      have known := known_of_hears found
      obtain rfl : record.id = slot := (ρ.catalogue q).keyed slot record known
      have lays : ρ.Lays p i record.id claimant hold ttl := .of_commits (commits_of_hears hears)
      have others : ∀ k, b ≤ k → k < n → ρ.Serves k i → k ≠ p → ρ.store (k + 1) = ρ.store k := by
        intro k low' high' serves other
        rcases Nat.lt_or_gt_of_ne other with early | late
        · exact store_of_uncommitted first
            (fun h mem => kinds h (List.mem_append_left _ mem)) before low' early serves
        · refine store_of_uncommitted last (fun h mem => ?_) ?_ late high' serves
          · exact kinds h (List.mem_append_right _ (List.mem_cons_of_mem _ mem))
          · simp [Uncommitted, Heard.commits]
      have until_ : ρ.heard i b (p + 1) = t₀ ++ [committed w (placing ρ.policy hold record.id
          claimant.holder ttl)] := by
        rw [heard_succ low, first, hearing_eq_some.2 hears]
        rfl
      refine ⟨iff_of_true ⟨p, low, high, .inl (lays.commits.choose_spec.1.1), lays.store_ne⟩
        ⟨hold, ttl, renewed, rfl⟩, ?_, fun no => absurd rfl (no hold ttl renewed)⟩
      rintro _ _ _ ⟨⟩
      refine ⟨rfl, own, p, low, high, lays, others, ?_, q, record, early, late, known, ?_⟩
      · rw [until_, events_append, silent]
        rfl
      · rw [last]
        rfl

/-- The time for which a call has returned that it acquired a slot. -/
def acquired? (ρ : Run) (n i : Nat) : Option Nat :=
  (ρ.state n).calls[i]?.bind fun r =>
    match r.rest with
    | .done (.acquire (.acquired _ ttl _)) => some ttl
    | _ => none

/-- A call that has returned that it acquired a slot has returned. -/
theorem returned_of_acquired (h : ρ.acquired? n i = some ttl) :
    ∃ hold renewed, ρ.Returned n i (.acquire (.acquired hold ttl renewed)) := by
  obtain ⟨r, there, answers⟩ := Option.bind_eq_some_iff.1 h
  split at answers
  · rename_i hold ttl' renewed finished
    obtain rfl := Option.some.inj answers
    exact ⟨hold, renewed, r, there, finished⟩
  · cases answers

/-- A slot is acquired, though the first transaction is aborted. -/
def persisting : Run :=
  offering [1]
    ([.begin (.acquire 1 { holder := ⟨"a"⟩ } 60000)] ++ List.replicate 6 (.proceed 0) ++
      [.fail 0 .abort] ++ List.replicate 8 (.proceed 0))

/-- The acquire writes its hold for a minute at one move, and then it tells the room. -/
theorem persisting_lays :
    ∃ rest hold p, persisting.Reaches 0 1 16 (acquireFor {} 1 { holder := ⟨"a"⟩ } 60000) rest ∧
      persisting.Lays p 0 1 { holder := ⟨"a"⟩ } hold 60000 ∧
      ∃ record : SlotRecord, events (persisting.heard 0 (p + 1) 16) =
        [.held 1 record.day (secondsUp 60000)] := by
  obtain ⟨hold, renewed, returned⟩ :=
    returned_of_acquired (show persisting.acquired? 16 0 = some 60000 by decide +kernel)
  have begins : persisting.Begins 0 0 (.acquire 1 { holder := ⟨"a"⟩ } 60000) := ⟨rfl, rfl⟩
  obtain ⟨o, passes, answer⟩ := passes_of_returned rfl begins (by decide) returned
  obtain rfl := Answer.acquire.inj answer
  obtain ⟨-, whole⟩ := acquire_all_or_nothing passes
  obtain ⟨-, acquired, -⟩ := whole _ rfl
  obtain ⟨-, -, p, -, -, lays, -, -, q, record, -, -, -, told⟩ := acquired hold 60000 renewed rfl
  exact ⟨_, hold, p, passes, lays, record, told⟩

end Run
end Holdfast.Reservation
