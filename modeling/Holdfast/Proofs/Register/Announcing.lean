import Holdfast.Proofs.Register.Labels
import Holdfast.Proofs.Register.Telling
import Holdfast.Proofs.Room.Mailbox

/-!
# Calls announce what they do

A call that runs alone in a world that mirrors a register leaves a world that mirrors a register,
too, and has announced what makes the difference (`World.Announces`). This is so of every call
(`announces_call`), however often the policy lets it try: if it may not try at all, nothing is done
and nothing announced.
-/

namespace Holdfast.Reservation

namespace World

open Program

variable {ε ε' α β : Type} {policy : Policy} {calendar : Calendar} {w w' : World} {m : Register}
  {p : Program ε α}

/-! ## What a run leaves as it is -/

/-- Looking changes nothing but the counters. -/
theorem perform_of_looks {e : Effect} (looks : e.looks = true) (w : World) :
    ∃ metrics, (w.perform e).2 = { w with metrics } := by
  cases e with
  | store r => cases r <;> first | exact ⟨w.metrics, rfl⟩ | cases looks
  | announce e => cases looks
  | book slot => cases looks
  | _ => exact ⟨_, rfl⟩

/-- Who looks leaves everything as it is, but for the counters. -/
theorem run_of_looks (looks : p.Looks) (w : World) :
    ∃ metrics, (w.run p).2 = { w with metrics } := by
  induction p generalizing w with
  | done a => exact ⟨w.metrics, rfl⟩
  | fail e => exact ⟨w.metrics, rfl⟩
  | ask e next ih =>
    obtain ⟨metrics, first⟩ := perform_of_looks looks.1 w
    obtain ⟨metrics', last⟩ := ih (w.perform e).1 (looks.2 _) (w.perform e).2
    refine ⟨metrics', ?_⟩
    rw [run_ask, last, first]

/-- Who spares the store and the catalogue leaves everything as it is, but for the rooms and the
counters. -/
theorem run_of_spares (spares : p.Spares) (w : World) :
    ∃ metrics rooms, (w.run p).2 = { w with metrics, rooms } := by
  induction p generalizing w with
  | done a => exact ⟨w.metrics, w.rooms, rfl⟩
  | fail e => exact ⟨w.metrics, w.rooms, rfl⟩
  | ask e next ih =>
    have first : ∃ metrics rooms, (w.perform e).2 = { w with metrics, rooms } := by
      have spare := spares.1
      cases e with
      | store r => cases r <;> first | exact ⟨w.metrics, w.rooms, rfl⟩ | cases spare
      | book slot => cases spare
      | _ => exact ⟨_, _, rfl⟩
    obtain ⟨metrics, rooms, first⟩ := first
    obtain ⟨metrics', rooms', last⟩ := ih (w.perform e).1 (spares.2 _) (w.perform e).2
    refine ⟨metrics', rooms', ?_⟩
    rw [run_ask, last, first]

/-- Taking a failure as a value changes nothing of what is done. -/
theorem run_attempt (p : Program ε α) (w : World) :
    (w.run (p.attempt : Program ε' (Except ε α))).2 = (w.run p).2 := by
  rw [run_attempt_eq]

/-- Making something of the value changes nothing of what is done. -/
theorem run_map (p : Program ε α) (f : α → β) (w : World) :
    (w.run (p >>= fun a => pure (f a))).2 = (w.run p).2 := by
  rcases ended : w.run p with ⟨r, w'⟩
  cases r with
  | error e => rw [run_seq_error ended]
  | ok a =>
    rw [run_seq ended]
    rfl

/-! ## Contracts -/

/-- **The program announces what it does.** -/
def Announces (policy : Policy) (calendar : Calendar) (w : World) (p : Program ε α)
    (m : Register) : Prop :=
  ∃ es m', (w.run p).2.Mirrors policy calendar m' ∧ m.Tells calendar es m' ∧
    (w.run p).2.rooms = w.rooms.emitAll es

namespace Announces

/-- What is known of the end of a program. -/
theorem of_run {r : Except ε α} {es : List RoomEvent} {m' : Register} (run : w.run p = (r, w'))
    (mirrors : w'.Mirrors policy calendar m') (tells : m.Tells calendar es m')
    (rooms : w'.rooms = w.rooms.emitAll es) : Announces policy calendar w p m := by
  refine ⟨es, m', ?_⟩
  rw [run]
  exact ⟨mirrors, tells, rooms⟩

/-- One after the other. -/
theorem seq {f : α → Program ε β} (first : Announces policy calendar w p m)
    (rest : ∀ a w' m', w'.Mirrors policy calendar m' → m'.Sound calendar →
      Announces policy calendar w' (f a) m') :
    Announces policy calendar w (p >>= f) m := by
  obtain ⟨es, m', mirrors, tells, rooms⟩ := first
  rcases ended : w.run p with ⟨r, w'⟩
  rw [ended] at mirrors rooms
  cases r with
  | error e => exact .of_run (run_seq_error ended) mirrors tells rooms
  | ok a =>
    obtain ⟨es', m'', mirrors', tells', rooms'⟩ := rest a w' m' mirrors tells.sound
    refine ⟨es ++ es', m'', ?_⟩
    rw [run_seq ended]
    refine ⟨mirrors', tells.trans tells', ?_⟩
    rw [rooms', rooms]
    simp [Hub.emitAll]

/-- A failure is taken as a value. -/
theorem attempt (h : Announces policy calendar w p m) :
    Announces policy calendar w (p.attempt : Program ε' (Except ε α)) m := by
  unfold Announces
  rw [run_attempt]
  exact h

end Announces

end World

/-! ## What is told by an outcome -/

namespace Register

variable {policy : Policy} {calendar : Calendar} {m : Register} {slot : SlotId} {day : Day}

/-- A slot that can be held is on its day. -/
theorem known_of_openDay (isOpen : m.openDay calendar slot = .ok day) :
    calendar slot = some day := by
  unfold openDay at isOpen
  split at isOpen
  · cases isOpen
  · split at isOpen
    · cases isOpen
    · rename_i known
      split at isOpen
      · cases isOpen
      · split at isOpen <;> cases isOpen
        exact known

namespace Sound

variable (sound : m.Sound calendar)

include sound

/-- What a claim does is told by its outcome. -/
theorem tells_claim (policy : Policy) (claimant : Claimant) (ttl : Nat) (known : calendar slot = some day)
    (free : m.booked slot = false) :
    m.Tells calendar ((m.claim policy slot day claimant ttl).1.told slot day)
      (m.claim policy slot day claimant ttl).2 := by
  have claimed := m.claimed policy slot day claimant ttl
  generalize m.claim policy slot day claimant ttl = claim at claimed ⊢
  obtain ⟨o, m'⟩ := claim
  cases claimed with
  | refused c => exact .silent sound
  | renewed old live own =>
    -- A renewal keeps the day of the hold, which is the day of the slot.
    have same := sound.day slot old (live?_eq_some_iff.1 live).1
    rw [known] at same
    obtain rfl := Option.some.inj same
    exact Tells.keep (h := { old with
      session := claimant.session.or old.session, deadline := m.clock + ttl }) sound free known _
  | new unheld alone =>
    exact Tells.keep (h := ⟨claimant.holder, claimant.session, day, m.clock + ttl⟩) sound free
      known _

/-- What a release does is told by its outcome. -/
theorem tells_release (slot : SlotId) (claimant : Claimant) :
    m.Tells calendar ((m.release slot claimant).1.told slot) (m.release slot claimant).2 := by
  have released := m.released slot claimant
  generalize m.release slot claimant = done at released ⊢
  obtain ⟨o, m'⟩ := done
  cases released with
  | noHold unheld => exact .silent sound
  | notOwner h live foreign => exact .silent sound
  | released h live owned => exact .drop sound (live?_eq_some_iff.1 live).1

/-- What a commit does is told by its outcome. -/
theorem tells_commit (slot : SlotId) (claimant : Claimant) :
    m.Tells calendar
      ((m.commit calendar slot claimant).1.toOption.elim [] (·.told slot))
      (m.commit calendar slot claimant).2 := by
  have committed := m.committed calendar slot claimant
  generalize m.commit calendar slot claimant = done at committed ⊢
  obtain ⟨r, m'⟩ := done
  cases committed with
  | failed e => exact .silent sound
  | noHold => exact .silent sound
  | notOwner => exact .silent sound
  | committed known free live owned => exact .book sound known

end Sound
end Register

/-! ## Calls -/

namespace World.Mirrors

open Program

variable {ε α : Type} {policy : Policy} {calendar : Calendar} {w : World} {m : Register}
  {p : Program ε α} (mirrors : w.Mirrors policy calendar m) (sound : m.Sound calendar)

include mirrors sound

/-- Who looks has nothing to announce. -/
theorem announces_of_looks (looks : p.Looks) : Announces policy calendar w p m := by
  obtain ⟨metrics, same⟩ := run_of_looks looks w
  refine ⟨[], m, ?_⟩
  rw [same]
  exact ⟨mirrors.beside metrics w.rooms, .silent sound, rfl⟩

/-- **An acquire announces what it does.** -/
theorem announces_acquireFor (slot : SlotId) (claimant : Claimant) (ttl : Nat) :
    Announces policy calendar w (acquireFor policy slot claimant ttl) m := by
  rcases Nat.eq_zero_or_pos policy.maxAttempts with never | attempts
  · exact mirrors.announces_of_looks sound (looks_acquireFor never slot claimant ttl)
  refine ⟨_, _, (mirrors.follows_acquireFor attempts slot claimant ttl).2, ?_, rooms_run _ w⟩
  rw [mirrors.tells_acquireFor attempts]
  unfold Register.acquireFor
  cases isOpen : m.openDay calendar slot with
  | error e => exact .silent sound
  | ok day =>
    exact sound.tells_claim policy claimant ttl (Register.known_of_openDay isOpen)
      (free_of_openDay isOpen)

/-- **A release announces what it does.** -/
theorem announces_release (slot : SlotId) (claimant : Claimant) :
    Announces policy calendar w (release policy slot claimant) m := by
  rcases Nat.eq_zero_or_pos policy.maxAttempts with never | attempts
  · exact mirrors.announces_of_looks sound (looks_release never slot claimant)
  refine ⟨_, _, (mirrors.follows_release attempts slot claimant).2, ?_, rooms_run _ w⟩
  rw [mirrors.tells_release attempts]
  exact sound.tells_release slot claimant

/-- **A commit announces what it does.** -/
theorem announces_commit (slot : SlotId) (claimant : Claimant) :
    Announces policy calendar w (commit policy slot claimant) m := by
  rcases Nat.eq_zero_or_pos policy.maxAttempts with never | attempts
  · exact mirrors.announces_of_looks sound (looks_commit never slot claimant)
  refine ⟨_, _, (mirrors.follows_commit attempts slot claimant).2, ?_, rooms_run _ w⟩
  rw [mirrors.tells_commit attempts]
  exact sound.tells_commit slot claimant

/-- An acquire through a connection announces what it does, the release of another slot first. -/
theorem announces_acquireForSession (slot : SlotId) (holder : HolderId) (session : SessionId) :
    Announces policy calendar w (acquireForSession policy slot holder session) m := by
  unfold acquireForSession
  refine (mirrors.announces_of_looks sound (looks_readIndex _)).seq fun named w₁ m₁ mirrors₁ sound₁ => ?_
  cases named with
  | none => exact mirrors₁.announces_acquireFor sound₁ _ _ _
  | some previous =>
    dsimp only
    split
    · exact (mirrors₁.announces_release sound₁ previous _).attempt.seq
        fun _ w₂ m₂ mirrors₂ sound₂ => mirrors₂.announces_acquireFor sound₂ _ _ _
    · exact mirrors₁.announces_acquireFor sound₁ _ _ _

omit sound in
/-- The entry of a connection is taken away. -/
theorem forget_session (session : SessionId) :
    (w.write [.delete (Key.session session)]).Mirrors policy calendar m := by
  have frame : ∀ {key}, key ≠ Key.session session →
      (w.write [.delete (Key.session session)]).store.entries.get? key =
        w.store.entries.get? key := fun ne => w.store.entries.get?_erase_ne ne
  refine ⟨mirrors.clock, mirrors.admission, mirrors.known, fun slot => ?_, ?_, ?_, ?_⟩
  · rw [frame (Key.hold_ne_session slot session)]
    exact mirrors.holds slot
  · exact fun key e there => mirrors.written key e (Store.get?_of_remove there)
  · exact fun slot e there => mirrors.marked slot e (Store.get?_of_remove there)
  · intro single slot h live
    rw [frame (Key.holder_ne_session h.owner session)]
    exact mirrors.indexed single slot h live

/-- The end of a connection announces what it does. -/
theorem announces_endSession (holder : HolderId) (session : SessionId) :
    Announces policy calendar w (endSession policy holder session) m := by
  unfold endSession
  refine (mirrors.announces_of_looks sound (looks_readIndex _)).seq fun named w₁ m₁ mirrors₁ sound₁ => ?_
  cases named with
  | none => exact mirrors₁.announces_of_looks sound₁ trivial
  | some slot =>
    refine (mirrors₁.announces_release sound₁ slot _).seq fun o w₂ m₂ mirrors₂ sound₂ => ?_
    exact .of_run rfl (mirrors₂.forget_session session) (.silent sound₂) rfl

/-! ## Passes over what ran out -/

omit mirrors sound in
/-- A pass evicts what ran out, and changes nothing else but the rooms and the counters. -/
theorem run_reap (w : World) :
    ∃ metrics rooms, (w.run reap).2 =
      { w with store := (w.store.evict w.clock).2, metrics, rooms } := by
  let evicted : World := { w with store := (w.store.evict w.clock).2 }
  have first : w.run ((Program.perform (.store .evict)).bind (orFail StoreError.unavailable)) =
      (.ok (w.store.evict w.clock).1, evicted) := rfl
  have rest : (announceExpired 0 (w.store.evict w.clock).1 >>= fun reaped =>
      (Program.perform (.count .holdsReaped reaped) : Program StoreError Unit) >>= fun _ =>
        .done reaped).Spares :=
    (Run.spares_announceExpired 0 _).bind fun _ => Only.bind ⟨rfl, fun _ => trivial⟩ fun _ => trivial
  unfold reap
  rw [run_seq first]
  exact run_of_spares rest evicted

omit mirrors sound in
/-- Of what it evicts, a pass announces the holds. -/
theorem rooms_reap (w : World) :
    (w.run reap).2.rooms = w.rooms.emitAll ((w.store.evict w.clock).1.filterMap expiry?) := by
  rw [rooms_run, World.tells_reap]

/-- What a pass takes away is told by what it announces. -/
theorem tells_reap :
    m.Tells calendar ((w.store.evict w.clock).1.filterMap expiry?) m.reap.2 := by
  refine .reap sound (fun e mem => ?_) fun slot h there out => ?_
  · obtain ⟨slot, h, there, out, rfl⟩ := mirrors.mem_expiries_iff.1 mem
    exact ⟨h, there, out, rfl⟩
  · exact ⟨_, mirrors.mem_expiries_iff.2 ⟨slot, h, there, out, rfl⟩, rfl⟩

/-- **A pass over what ran out announces what it does.** -/
theorem announces_reap : Announces policy calendar w reap m :=
  ⟨_, _, mirrors.follows_reap.2, mirrors.tells_reap sound, rooms_reap w⟩

/-- **Every call announces what it does.** -/
theorem announces_call (c : Call) : Announces policy calendar w (c.program policy) m := by
  have value : ∀ {β : Type} {q : Program Failure β} (f : β → Answer),
      Announces policy calendar w q m →
        Announces policy calendar w (q >>= fun b => pure (f b)) m :=
    fun f h => h.seq fun b w' m' mirrors' sound' => mirrors'.announces_of_looks sound' trivial
  have look : ∀ {β : Type} {q : Program Failure β}, q.Looks → Announces policy calendar w q m :=
    mirrors.announces_of_looks sound
  cases c with
  | acquire slot claimant ttl => exact value _ (mirrors.announces_acquireFor sound slot claimant ttl)
  | release slot claimant => exact value _ (mirrors.announces_release sound slot claimant)
  | commit slot claimant => exact value _ (mirrors.announces_commit sound slot claimant)
  | acquireForSession slot holder session =>
    exact value _ (mirrors.announces_acquireForSession sound slot holder session)
  | endSession holder session => exact value _ (mirrors.announces_endSession sound holder session)
  | sessionSlot session => exact value _ (look (looks_readIndex _))
  | status slot => exact value _ (look (looks_status slot))
  | listHolds => exact value _ (look looks_listHolds)
  | snapshot day => exact value _ (look (looks_snapshot day))
  | reap => exact value _ (mirrors.announces_reap sound).attempt

end World.Mirrors
end Holdfast.Reservation
