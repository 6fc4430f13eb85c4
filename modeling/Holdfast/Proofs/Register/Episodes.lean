import Holdfast.Proofs.Conduct.Episodes
import Holdfast.Proofs.Register.Announcing

/-!
# Registers through a history

Whatever happens, one thing after the other, a world that mirrors a register comes to mirror another
one, and each hold of that stems from the first (`Register.Stems`): it was there before, or the
claimant of the episode got it, on the day that the calendar says.

So what is true of every hold that a claimant gets, and of every renewal of a hold of which it was true
before, is true of all holds after every history (`World.exists_register`).
-/

namespace Holdfast.Reservation

/-- **Where a hold of a register comes from** after something was done for a claimant: it was there
before, or the claimant renewed the hold on the slot, or got a new one. -/
inductive Register.Stems (calendar : Calendar) (m : Register) (claimant? : Option Claimant)
    (slot : SlotId) : Held → Prop where
  | kept {h : Held} (there : m.holds.get? slot = some h) : Stems calendar m claimant? slot h
  | renewed {old : Held} {claimant : Claimant} (claims : claimant? = some claimant)
    (there : m.holds.get? slot = some old) (own : old.owner = claimant.holder) (deadline : Nat) :
    Stems calendar m claimant? slot
      { old with session := claimant.session.or old.session, deadline := deadline }
  | new {claimant : Claimant} {day : Day} (claims : claimant? = some claimant)
    (known : calendar slot = some day) (deadline : Nat) :
    Stems calendar m claimant? slot ⟨claimant.holder, claimant.session, day, deadline⟩

/-- All holds of the later register stem from the earlier one. -/
def Register.Yields (calendar : Calendar) (claimant? : Option Claimant) (m m' : Register) : Prop :=
  ∀ slot h, m'.holds.get? slot = some h → m.Stems calendar claimant? slot h

namespace Register.Yields

variable {calendar : Calendar} {claimant? : Option Claimant} {m m' m'' : Register}

/-- No hold is added. -/
theorem of_left (left : ∀ slot h, m'.holds.get? slot = some h → m.holds.get? slot = some h) :
    m.Yields calendar claimant? m' := fun slot h there => .kept (left slot h there)

theorem refl : m.Yields calendar claimant? m := of_left fun _ _ => id

/-- Nobody gets a hold, and then perhaps somebody does. -/
theorem trans (first : m.Yields calendar none m') (second : m'.Yields calendar claimant? m'') :
    m.Yields calendar claimant? m'' := by
  have before : ∀ slot h, m'.holds.get? slot = some h → m.holds.get? slot = some h := by
    intro slot h later
    cases first slot h later with
    | kept there => exact there
    | renewed claims => cases claims
    | new claims => cases claims
  intro slot h later
  cases second slot h later with
  | kept there => exact .kept (before slot h there)
  | renewed claims there own deadline => exact .renewed claims (before slot _ there) own deadline
  | new claims known deadline => exact .new claims known deadline

/-- A hold is kept that stems from the register. -/
theorem keep {slot : SlotId} {h : Held} (stems : m.Stems calendar claimant? slot h) :
    m.Yields calendar claimant? (m.keep slot h) := by
  intro slot' h' there
  by_cases same : slot' = slot
  · subst same
    rw [Register.keep, SortedMap.get?_insert_self] at there
    exact Option.some.inj there ▸ stems
  · rw [Register.keep, SortedMap.get?_insert_ne _ same] at there
    exact .kept there

/-- A hold is dropped. -/
theorem drop (m : Register) (slot : SlotId) : m.Yields calendar claimant? (m.drop slot) := by
  apply of_left
  intro slot' h there
  rw [Register.drop, SortedMap.erase, SortedMap.get?_filter, Option.filter_eq_some_iff] at there
  exact there.1

/-- A claim. -/
theorem claim (policy : Policy) (m : Register) {slot : SlotId} {day : Day}
    (known : calendar slot = some day) (claimant : Claimant) (ttl : Nat) :
    m.Yields calendar (some claimant) (m.claim policy slot day claimant ttl).2 := by
  have claimed := m.claimed policy slot day claimant ttl
  generalize m.claim policy slot day claimant ttl = done at claimed ⊢
  obtain ⟨o, m'⟩ := done
  cases claimed with
  | refused c => exact .refl
  | renewed old live own => exact .keep (.renewed rfl (live?_eq_some_iff.1 live).1 own _)
  | new unheld alone => exact .keep (.new rfl known _)

/-- An acquire. -/
theorem acquireFor (policy : Policy) (m : Register) (slot : SlotId) (claimant : Claimant) (ttl : Nat) :
    m.Yields calendar (some claimant) (m.acquireFor policy calendar slot claimant ttl).2 := by
  unfold Register.acquireFor
  cases isOpen : m.openDay calendar slot with
  | error e => exact .refl
  | ok day => exact .claim policy m (known_of_openDay isOpen) claimant ttl

/-- A release. -/
theorem release (m : Register) (slot : SlotId) (claimant : Claimant) :
    m.Yields calendar claimant? (m.release slot claimant).2 := by
  have released := m.released slot claimant
  generalize m.release slot claimant = done at released ⊢
  obtain ⟨o, m'⟩ := done
  cases released with
  | noHold unheld => exact .refl
  | notOwner h live foreign => exact .refl
  | released h live owned => exact .drop m slot

/-- A commit. -/
theorem commit (m : Register) (slot : SlotId) (claimant : Claimant) :
    m.Yields calendar claimant? (m.commit calendar slot claimant).2 := by
  have committed := m.committed calendar slot claimant
  generalize m.commit calendar slot claimant = done at committed ⊢
  obtain ⟨r, m'⟩ := done
  cases committed with
  | failed e => exact .refl
  | noHold => exact .refl
  | notOwner => exact .refl
  | committed known free live owned => exact fun slot' h there => drop m slot slot' h there

/-- A pass over what ran out. -/
theorem reap (m : Register) : m.Yields calendar claimant? m.reap.2 := by
  apply of_left
  intro slot h there
  rw [Register.reap, SortedMap.get?_filter, Option.filter_eq_some_iff] at there
  exact there.1

end Register.Yields

/-- **The program leads on**: the world that it leaves mirrors a register whose holds stem from the one
before. -/
def World.Leads {ε α : Type} (policy : Policy) (calendar : Calendar) (claimant? : Option Claimant)
    (w : World) (p : Program ε α) (m : Register) : Prop :=
  ∃ m', (w.run p).2.Mirrors policy calendar m' ∧ m.Yields calendar claimant? m'

namespace World.Leads

variable {ε ε' α β : Type} {policy : Policy} {calendar : Calendar} {claimant? : Option Claimant}
  {w : World} {m : Register} {p : Program ε α}

/-- What a program comes to that follows the register. -/
theorem of_follows {r : Except ε α} {m' : Register} (follows : Follows policy calendar w p r m')
    (yields : m.Yields calendar claimant? m') : Leads policy calendar claimant? w p m :=
  ⟨m', follows.2, yields⟩

/-- Who only looks leaves the register as it is. -/
theorem of_looks (mirrors : w.Mirrors policy calendar m) (looks : p.Looks) :
    Leads policy calendar claimant? w p m := by
  obtain ⟨metrics, same⟩ := run_of_looks looks w
  refine ⟨m, ?_, .refl⟩
  rw [same]
  exact mirrors.beside metrics w.rooms

/-- Nobody gets a hold by the first program, and perhaps somebody by the second. -/
theorem seq {f : α → Program ε β} (first : Leads policy calendar none w p m)
    (rest : ∀ a w' m', w'.Mirrors policy calendar m' → Leads policy calendar claimant? w' (f a) m') :
    Leads policy calendar claimant? w (p >>= f) m := by
  obtain ⟨m₁, mirrors₁, yields₁⟩ := first
  rcases ended : w.run p with ⟨r, w₁⟩
  rw [ended] at mirrors₁
  cases r with
  | error e =>
    refine ⟨m₁, ?_, yields₁.trans .refl⟩
    rw [run_seq_error ended]
    exact mirrors₁
  | ok a =>
    obtain ⟨m₂, mirrors₂, yields₂⟩ := rest a w₁ m₁ mirrors₁
    refine ⟨m₂, ?_, yields₁.trans yields₂⟩
    rw [run_seq ended]
    exact mirrors₂

/-- Taking a failure as a value changes nothing of what is done. -/
theorem attempt (leads : Leads policy calendar claimant? w p m) :
    Leads policy calendar claimant? w (p.attempt : Program ε' (Except ε α)) m := by
  unfold Leads
  rwa [run_attempt]

/-- Making something of the value changes nothing of what is done. -/
theorem map (leads : Leads policy calendar claimant? w p m) (f : α → β) :
    Leads policy calendar claimant? w (p >>= fun a => pure (f a)) m := by
  unfold Leads
  rwa [run_map]

end World.Leads

/-! ## Calls -/

namespace World.Mirrors

open Program

variable {policy : Policy} {calendar : Calendar} {w : World} {m : Register}
  (mirrors : w.Mirrors policy calendar m)

include mirrors

/-- An acquire leads on. -/
theorem leads_acquireFor (slot : SlotId) (claimant : Claimant) (ttl : Nat) :
    Leads policy calendar (some claimant) w (acquireFor policy slot claimant ttl) m := by
  rcases Nat.eq_zero_or_pos policy.maxAttempts with never | attempts
  · exact .of_looks mirrors (looks_acquireFor never slot claimant ttl)
  · exact .of_follows (mirrors.follows_acquireFor attempts slot claimant ttl)
      (.acquireFor policy m slot claimant ttl)

/-- A release leads on. -/
theorem leads_release (slot : SlotId) (claimant : Claimant) :
    Leads policy calendar none w (release policy slot claimant) m := by
  rcases Nat.eq_zero_or_pos policy.maxAttempts with never | attempts
  · exact .of_looks mirrors (looks_release never slot claimant)
  · exact .of_follows (mirrors.follows_release attempts slot claimant) (.release m slot claimant)

/-- A commit leads on. -/
theorem leads_commit (slot : SlotId) (claimant : Claimant) :
    Leads policy calendar none w (commit policy slot claimant) m := by
  rcases Nat.eq_zero_or_pos policy.maxAttempts with never | attempts
  · exact .of_looks mirrors (looks_commit never slot claimant)
  · exact .of_follows (mirrors.follows_commit attempts slot claimant) (.commit m slot claimant)

/-- An acquire through a connection leads on. -/
theorem leads_acquireForSession (slot : SlotId) (holder : HolderId) (session : SessionId) :
    Leads policy calendar (some { holder, session := some session }) w
      (acquireForSession policy slot holder session) m := by
  unfold acquireForSession
  refine (Leads.of_looks mirrors (looks_readIndex _)).seq fun named w₁ m₁ mirrors₁ => ?_
  cases named with
  | none => exact mirrors₁.leads_acquireFor slot _ _
  | some previous =>
    dsimp only
    split
    · exact (mirrors₁.leads_release previous _).attempt.seq
        fun _ w₂ m₂ mirrors₂ => mirrors₂.leads_acquireFor slot _ _
    · exact mirrors₁.leads_acquireFor slot _ _

/-- The end of a connection leads on. -/
theorem leads_endSession (holder : HolderId) (session : SessionId) :
    Leads policy calendar none w (endSession policy holder session) m := by
  unfold endSession
  refine (Leads.of_looks mirrors (looks_readIndex _)).seq fun named w₁ m₁ mirrors₁ => ?_
  cases named with
  | none => exact .of_looks mirrors₁ trivial
  | some slot =>
    refine (mirrors₁.leads_release slot _).seq fun o w₂ m₂ mirrors₂ => ?_
    exact ⟨m₂, mirrors₂.forget_session session, .refl⟩

/-- **Every call leads on.** -/
theorem leads_call (c : Call) : Leads policy calendar c.claimant? w (c.program policy) m := by
  cases c with
  | acquire slot claimant ttl => exact (mirrors.leads_acquireFor slot claimant ttl).map _
  | release slot claimant => exact (mirrors.leads_release slot claimant).map _
  | commit slot claimant => exact (mirrors.leads_commit slot claimant).map _
  | acquireForSession slot holder session =>
    exact (mirrors.leads_acquireForSession slot holder session).map _
  | endSession holder session => exact (mirrors.leads_endSession holder session).map _
  | sessionSlot session => exact (Leads.of_looks mirrors (looks_readIndex _)).map _
  | status slot => exact (Leads.of_looks mirrors (looks_status slot)).map _
  | listHolds => exact (Leads.of_looks mirrors looks_listHolds).map _
  | snapshot day => exact (Leads.of_looks mirrors (looks_snapshot day)).map _
  | reap => exact (Leads.of_follows mirrors.follows_reap (.reap m)).attempt.map _

/-- **What happens outside leads on**, if the slots stay the same. -/
theorem leads_drift {move : Move} (keeps : (Episode.outside move).KeepsSlots) :
    ∃ m', (w.drift move).Mirrors policy calendar m' ∧ m.Yields calendar none m' := by
  cases move with
  | wait milliseconds => exact ⟨_, mirrors.wait milliseconds, .of_left fun _ _ => id⟩
  | regulate a => exact ⟨_, mirrors.regulate a, .of_left fun _ _ => id⟩
  | insert r => exact absurd rfl (keeps r)
  | book slot =>
    refine ⟨_, (mirrors.book slot).2, .of_left fun slot' h there => ?_⟩
    unfold Register.book at there
    split at there
    · exact there
    · split at there <;> exact there
  | rooms h => exact ⟨m, mirrors.beside _ _, .refl⟩
  | _ => exact ⟨m, mirrors, .refl⟩

end World.Mirrors

/-! ## Histories -/

/-- **One episode leads on**, if the slots stay the same. -/
theorem World.Mirrors.episode {policy : Policy} {calendar : Calendar} {w : World} {m : Register}
    (mirrors : w.Mirrors policy calendar m) {t : Episode} (keeps : t.KeepsSlots) :
    ∃ m', (w.episode policy t).2.Mirrors policy calendar m' ∧ m.Yields calendar t.claimant? m' := by
  cases t with
  | call c => exact mirrors.leads_call c
  | outside move => exact mirrors.leads_drift keeps

/-- **After every history the world mirrors a register**, and all its holds are as the episodes keep
them: of this kind is every hold that stems, in one of the episodes, from a register with such holds. -/
theorem World.exists_register {policy : Policy} {start : World}
    (unused : start.store.entries = .empty) {kind : SlotId → Held → Prop} {ts : List Episode}
    (keeps : ∀ t ∈ ts, t.KeepsSlots)
    (closed : ∀ t ∈ ts, ∀ (m : Register), (∀ slot h, m.holds.get? slot = some h → kind slot h) →
      ∀ slot h, m.Stems start.calendar t.claimant? slot h → kind slot h) :
    ∃ m, (start.episodes policy ts).2.Mirrors policy start.calendar m ∧
      ∀ slot h, m.holds.get? slot = some h → kind slot h := by
  have go : ∀ (w : World) (m : Register), w.Mirrors policy start.calendar m →
      (∀ slot h, m.holds.get? slot = some h → kind slot h) →
      ∃ m, (w.episodes policy ts).2.Mirrors policy start.calendar m ∧
        ∀ slot h, m.holds.get? slot = some h → kind slot h := by
    induction ts with
    | nil => exact fun w m mirrors all => ⟨m, mirrors, all⟩
    | cons t rest ih =>
      intro w m mirrors all
      obtain ⟨keeps_first, keeps_rest⟩ := List.forall_mem_cons.1 keeps
      obtain ⟨closed_first, closed_rest⟩ := List.forall_mem_cons.1 closed
      obtain ⟨m', mirrors', yields⟩ := mirrors.episode keeps_first
      exact ih keeps_rest closed_rest _ m' mirrors'
        fun slot h there => closed_first m all slot h (yields slot h there)
  refine go start start.register (.of_unused unused) fun slot h there => ?_
  cases there

end Holdfast.Reservation
