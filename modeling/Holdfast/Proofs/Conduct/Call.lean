import Holdfast.Proofs.Conduct.Acquire
import Holdfast.Proofs.Conduct.Commit
import Holdfast.Proofs.Conduct.Looking

/-!
# What every call does

Each kind of call keeps to the deeds of its kind. So whatever is carried out in a run, at any move
and for any call, is a deed with its grounds (`Run.deed`); whatever is announced has its grounds in what
the call did before (`Run.announcing_of_performs`); and a commit that answered that it committed is
settled (`Run.settled`).
-/

namespace Holdfast.Reservation.Run

variable {ρ : Run} {i n₀ n : Nat} {c : Call}

/-- Acquiring through a connection. -/
theorem keeps_acquireForSession {slot : SlotId} {holder : HolderId} {session : SessionId}
    (begun : n₀ < n) (call : c = .acquireForSession slot holder session) :
    ρ.Keeps i (ρ.Deed i n₀ c) (okay fun _ _ => True)
      (acquireForSession ρ.policy slot holder session) n := by
  subst call
  have acquires : ∀ m, n ≤ m → ρ.Keeps i (ρ.Deed i n₀ _) (okay fun _ _ => True)
      (acquire ρ.policy slot { holder, session := some session }) m :=
    fun m le => keeps_acquireFor (by omega) (.connected slot holder session) fun _ _ _ => trivial
  refine .bind_okay (keeps_readIndex (sparing_deed ρ i n₀ _) ?_ ?_ fun _ _ _ => trivial)
  · exact fun m le _ => acquires (m + 1) (by omega)
  · intro m le previous names
    by_cases same : previous = slot
    · subst same
      simp only [okay, ne_eq, not_true, if_false]
      exact acquires (m + 1) (by omega)
    · simp only [okay, ne_eq, same, not_false_eq_true, if_true]
      have released : ρ.Keeps i (ρ.Deed i n₀ _) (okay fun _ _ => True)
          (release ρ.policy previous { holder, session := some session }) (m + 1) :=
        keeps_release (by omega) (.previous holder session same) fun _ _ _ => trivial
      refine .bind_okay (.attempt (released.remember.mono (fun _ _ => id) ?_))
      rintro r m' ⟨-, le', -⟩
      exact acquires m' (by omega)

/-- Ending a connection. -/
theorem keeps_endSession {holder : HolderId} {session : SessionId} (begun : n₀ < n)
    (call : c = .endSession holder session) :
    ρ.Keeps i (ρ.Deed i n₀ c) (okay fun _ _ => True) (endSession ρ.policy holder session) n := by
  subst call
  refine .bind_okay (keeps_readIndex (sparing_deed ρ i n₀ _) ?_ ?_ fun _ _ _ => trivial)
  · exact fun _ _ _ => trivial
  · intro m le slot names
    refine .bind_okay (keeps_release (by omega) (.ended slot holder session) ?_)
    intro m' outcome le'
    refine .bind_okay (keeps_ask ?_ ?_ fun _ _ _ => trivial)
    · exact fun _ _ => .forget rfl
    · exact fun _ _ _ _ => trivial

/-- Announcing what expired. -/
theorem spares_announceExpired (before : Nat) (evicted : List (String × String)) :
    (announceExpired before evicted).Spares := by
  induction evicted generalizing before with
  | nil => exact trivial
  | cons entry rest ih =>
    obtain ⟨key, text⟩ := entry
    unfold announceExpired
    split
    · split
      · exact Program.Only.bind ⟨rfl, fun _ => trivial⟩ fun _ => ih before
      · exact Program.Only.bind ⟨rfl, fun _ => trivial⟩ fun _ => ih (before + 1)
    · exact ih before

/-- Whatever is announced of what was evicted was evicted. -/
theorem keeps_announceExpired (call : c = .reap) {p : Nat} (early : n₀ < p) (late : p < n)
    (performs : ρ.Performs p i (.store .evict)) (before : Nat) {evicted : List (String × String)}
    (all : ∀ entry ∈ evicted, entry ∈ ((ρ.store p).evict (ρ.clock p)).1) :
    ρ.Keeps i (ρ.Deed i n₀ c) (fun _ _ => True) (announceExpired before evicted) n := by
  induction evicted generalizing before n with
  | nil => exact trivial
  | cons entry rest ih =>
    obtain ⟨key, text⟩ := entry
    obtain ⟨first, others⟩ := List.forall_mem_cons.1 all
    unfold announceExpired HoldRecord.stored
    split
    · rename_i isHold
      cases decoded : HoldRecord.decode? text with
      | none => exact fun m le _ _ _ => ⟨.spare rfl, ih (by omega) before others⟩
      | some hold =>
        have grounds : ρ.Announcing i n₀ c p (.released hold.slot hold.day) :=
          .expired call performs first isHold decoded
        exact fun m le _ _ _ =>
          ⟨.announce early (by omega) grounds, ih (by omega) (before + 1) others⟩
    · exact ih late before others

/-- A pass over what expired. -/
theorem keeps_reap (begun : n₀ < n) (call : c = .reap) :
    ρ.Keeps i (ρ.Deed i n₀ c) (fun _ _ => True) reap n := by
  intro p le quiet reply hears
  refine ⟨.evict call, ?_⟩
  cases reply with
  | error reason => exact trivial
  | ok evicted =>
    obtain ⟨performs, truth⟩ := performs_of_hears hears nofun
    have announced : ρ.Keeps i (ρ.Deed i n₀ c) (fun _ _ => True) (announceExpired 0 evicted) (p + 1) :=
      keeps_announceExpired call (by omega) (Nat.lt_succ_self p) performs 0 fun _ mem => truth ▸ mem
    show ρ.Keeps i (ρ.Deed i n₀ c) (fun _ _ => True) (announceExpired 0 evicted >>= fun reaped =>
      Program.perform (.count .holdsReaped reaped) >>= fun _ => Program.done reaped) (p + 1)
    refine .bind (announced.mono (fun _ _ => id) ?_)
    rintro (e | reaped) m -
    · exact trivial
    · exact fun m' le' _ _ _ => ⟨.spare rfl, trivial⟩

/-- What a call promises: a commit that succeeded is settled. -/
def Promised (ρ : Run) (i n₀ : Nat) (c : Call) (answer : Answer) (n : Nat) : Prop :=
  ∀ slot claimant day, c = .commit slot claimant → answer = .commit (.committed day) →
    Nonempty (ρ.Settled i n₀ slot n)

/-- **What every call does.** -/
theorem keeps_call (ρ : Run) (i n₀ : Nat) (c : Call) :
    ρ.Keeps i (ρ.Deed i n₀ c) (okay (ρ.Promised i n₀ c)) (c.program ρ.policy) (n₀ + 1) := by
  have begun : n₀ < n₀ + 1 := Nat.lt_succ_self n₀
  have looks : ∀ {α : Type} {p : Program Failure α}, p.Looks →
      ρ.Keeps i (ρ.Deed i n₀ c) (okay fun _ _ => True) p (n₀ + 1) :=
    fun h => keeps_of_looks (sparing_deed ρ i n₀ c) (fun r _ _ => by cases r <;> exact trivial) h
  -- What is no commit has nothing to promise.
  have other : ∀ {α : Type} {p : Program Failure α} (f : α → Answer),
      (∀ a slot claimant day, c = .commit slot claimant → f a ≠ .commit (.committed day)) →
      ρ.Keeps i (ρ.Deed i n₀ c) (okay fun _ _ => True) p (n₀ + 1) →
      ρ.Keeps i (ρ.Deed i n₀ c) (okay (ρ.Promised i n₀ c)) (p >>= fun a => .done (f a))
        (n₀ + 1) := by
    intro α p f no keeps
    refine .bind_okay (keeps.mono_okay ?_)
    intro a m _ slot claimant day commits answer
    exact absurd answer (no a slot claimant day commits)
  cases call : c with
  | acquire slot claimant ttl =>
    subst call
    exact other _ (by simp) (keeps_acquireFor begun (.alone slot claimant ttl) fun _ _ _ => trivial)
  | release slot claimant =>
    subst call
    exact other _ (by simp) (keeps_release begun (.alone slot claimant) fun _ _ _ => trivial)
  | commit slot claimant =>
    have fresh : ρ.Avoids i (unmarking slot) n₀ (n₀ + 1) :=
      fun k reply low high => absurd high (Nat.not_lt.2 low)
    refine .bind_okay (keeps_commit rfl begun fresh ?_)
    intro m o le settled slot' claimant' day commits answer
    obtain ⟨rfl, rfl⟩ := Call.commit.inj commits
    exact settled day (Answer.commit.inj answer)
  | acquireForSession slot holder session =>
    subst call
    exact other _ (by simp) (keeps_acquireForSession begun rfl)
  | endSession holder session =>
    subst call
    exact other _ (by simp) (keeps_endSession begun rfl)
  | sessionSlot session =>
    subst call
    exact other _ (by simp) (looks (looks_readIndex _))
  | status slot =>
    subst call
    exact other _ (by simp) (looks (looks_status slot))
  | listHolds =>
    subst call
    exact other _ (by simp) (looks looks_listHolds)
  | snapshot day =>
    subst call
    exact other _ (by simp) (looks (looks_snapshot day))
  | reap =>
    subst call
    exact other _ (by simp) (.attempt ((keeps_reap begun rfl).mono (fun _ _ => id) fun _ _ => id))

/-- **Whatever a call does is a deed with its grounds.** -/
theorem deed {e : Effect} {reply : e.Reply} (hears : ρ.Hears n i e reply) :
    ∃ n₀ c, n₀ < n ∧ ρ.Begins n₀ i c ∧ ρ.call? n i = some c ∧ ρ.Deed i n₀ c n e := by
  obtain ⟨c, call⟩ := ρ.call?_of_hears i hears
  obtain ⟨r, there, rfl⟩ := Option.map_eq_some_iff.1 call
  obtain ⟨n₀, lt, begins, -⟩ := ρ.begins_of_calls i there
  exact ⟨n₀, r.call, lt, begins, call, hears_of_begins begins (ρ.keeps_call i n₀ r.call) lt hears⟩

/-- Whatever a given call does is one of its deeds. -/
theorem deed_of_call {e : Effect} {reply : e.Reply} (call : ρ.call? n i = some c)
    (hears : ρ.Hears n i e reply) :
    ∃ n₀, n₀ < n ∧ ρ.Begins n₀ i c ∧ ρ.Deed i n₀ c n e := by
  obtain ⟨n₀, c', lt, begins, call', deed⟩ := deed hears
  obtain rfl := Option.some.inj (call'.symm.trans call)
  exact ⟨n₀, lt, begins, deed⟩

/-- What is carried out is heard of. -/
theorem Performs.hears {e : Effect} (h : ρ.Performs n i e) :
    ρ.Hears n i e ((ρ.world n).perform e).1 := ⟨h.2, .inl ⟨h.1, rfl⟩⟩

/-- **Whatever is announced has its grounds** in what the call did at an earlier move. -/
theorem announcing_of_performs {event : RoomEvent} (announces : ρ.Performs n i (.announce event)) :
    ∃ n₀ c p, p < n ∧ ρ.Begins n₀ i c ∧ ρ.call? n i = some c ∧ ρ.Announcing i n₀ c p event := by
  obtain ⟨n₀, c, -, begins, call, deed⟩ := deed announces.hears
  cases deed with
  | spare h => cases h
  | @announce event p early late grounds => exact ⟨n₀, c, p, late, begins, call, grounds⟩

/-- **A commit that says so has committed.** -/
theorem settled {slot : SlotId} {claimant : Claimant} {day : Day}
    (call : ρ.call? n i = some (.commit slot claimant))
    (returned : ρ.Returned n i (.commit (.committed day))) :
    ∃ n₀ m, n₀ < m ∧ m ≤ n ∧ ρ.Begins n₀ i (.commit slot claimant) ∧ ρ.Quiet i m n ∧
      Nonempty (ρ.Settled i n₀ slot m) := by
  obtain ⟨r, there, same⟩ := Option.map_eq_some_iff.1 call
  obtain ⟨n₀, lt, begins, -⟩ := ρ.begins_of_calls i there
  obtain ⟨m, low, high, quiet, promised⟩ :=
    returned_of_begins begins (ρ.keeps_call i n₀ r.call) lt returned
  exact ⟨n₀, m, low, high, same ▸ begins, quiet, promised slot claimant day same rfl⟩

end Holdfast.Reservation.Run
