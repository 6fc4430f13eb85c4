import Holdfast.Proofs.Register.Announcing
import Holdfast.Proofs.Register.Snapshot
import Holdfast.Proofs.Room.Spectator

/-!
# Spectators see how the slots are

A spectator that has been sent all that there is to send sees every slot of its day as a snapshot
shows it, provided that the holds that ran out were just taken away (`Scene.view_eq_snapshot`).

What carries this along a run is what a spectator has still to read (`Spectator.Tracks`): the last
event about a slot that waits for it is how the slot looks, whatever was lost before; and where
nothing waits, and nothing was lost, it already sees how the slot looks. A hold that ran out counts
here as held or as free, since nobody is told of it until it is taken away, while a snapshot does
without it. An event that waits may be older than the snapshot that was sent before it; as the last
one about its slot it is no less true.
-/

namespace Holdfast.Reservation

/-! ## One spectator -/

/-- **What a spectator was sent and has still to read comes to how the slots look.** -/
structure Spectator.Tracks (calendar : Calendar) (m : Register) (s : Spectator)
    (mailbox : Mailbox) : Prop where
  waiting : ∀ slot label, calendar slot = some s.day → told? mailbox.waiting slot = some label →
    m.label slot = label
  view : s.stage = .following → mailbox.lost = 0 → ∀ slot, calendar slot = some s.day →
    told? mailbox.waiting slot = none → m.Shows slot (s.view slot)

namespace Spectator.Tracks

variable {calendar : Calendar} {m m' : Register} {s : Spectator} {mailbox : Mailbox}

/-- Who just joined has nothing to read and awaits a snapshot. -/
theorem joining {receiver : Receiver} {frames : List Socket.ServerEvent} :
    Tracks calendar m { receiver, frames } {} := by
  refine ⟨fun slot label _ told => ?_, fun following => ?_⟩
  · cases told
  · cases following

/-- Events are told. -/
theorem tell (h : s.Tracks calendar m mailbox) {es : List RoomEvent}
    (tells : m.Tells calendar es m') :
    s.Tracks calendar m' (mailbox.postAll (es.filter (·.day = s.day))) := by
  obtain ⟨dropped, split, lost⟩ := mailbox.waiting_postAll (es.filter (·.day = s.day))
  have room : ∀ slot, calendar slot = some s.day →
      told? (es.filter (·.day = s.day)) slot = told? es slot := by
    intro slot known
    refine told?_filter fun e mem about => ?_
    have day := tells.day e mem
    rw [about, known] at day
    exact decide_eq_true (Option.some.inj day).symm
  have last : ∀ slot, calendar slot = some s.day →
      (told? (mailbox.postAll (es.filter (·.day = s.day))).waiting slot).or (told? dropped slot) =
        (told? es slot).or (told? mailbox.waiting slot) := by
    intro slot known
    rw [← told?_append, ← split, told?_append, room slot known]
  refine ⟨fun slot label known told => ?_, fun following nothing slot known silent => ?_⟩
  · have latest := last slot known
    rw [told, Option.some_or] at latest
    cases fresh : told? es slot with
    | some label' =>
      rw [fresh, Option.some_or] at latest
      exact tells.told slot label (fresh.trans latest.symm)
    | none =>
      rw [fresh, Option.none_or] at latest
      obtain ⟨holds, booked⟩ := tells.untold slot fresh
      rw [Register.label, holds, booked]
      exact h.waiting slot label known latest.symm
  · have none_dropped : dropped = [] := List.eq_nil_of_length_eq_zero (by omega)
    have latest := last slot known
    rw [silent, none_dropped, told?_nil, Option.or_none, eq_comm, Option.or_eq_none_iff] at latest
    obtain ⟨holds, booked⟩ := tells.untold slot latest.1
    refine (h.view following (by omega) slot known latest.2).of_same holds booked ?_
    exact Nat.le_of_eq tells.clock.symm

/-- Time passes, or other days can be held. -/
theorem of_same (h : s.Tracks calendar m mailbox) (holds : m'.holds = m.holds)
    (booked : m'.booked = m.booked) (later : m.clock ≤ m'.clock) :
    s.Tracks calendar m' mailbox := by
  refine ⟨fun slot label known told => ?_, fun following nothing slot known silent => ?_⟩
  · rw [Register.label, holds, booked]
    exact h.waiting slot label known told
  · exact (h.view following nothing slot known silent).of_same (by rw [holds]) (by rw [booked]) later

/-- A snapshot is sent. -/
theorem renew (h : s.Tracks calendar m mailbox) {shot : DaySnapshot}
    (shown : ∀ slot, calendar slot = some s.day → shot.label slot = m.seen slot) :
    (s.renew shot).Tracks calendar m mailbox := by
  refine ⟨h.waiting, fun _ _ slot known _ => .inr ?_⟩
  show (View.ofFrames (s.frames ++ [.snapshot shot])) slot = _
  rw [View.ofFrames_concat]
  exact shown slot known

/-- The event that comes first is read. -/
theorem read (h : s.Tracks calendar m mailbox) (nothing : mailbox.lost = 0) {e : RoomEvent}
    {rest : List RoomEvent} (first : mailbox.waiting = e :: rest) :
    (s.send (.change e)).Tracks calendar m { mailbox with waiting := rest } := by
  have view : (s.send (.change e)).view = s.view.change e := View.ofFrames_concat _ _
  refine ⟨fun slot label known told => ?_, fun following _ slot known silent => ?_⟩
  · refine h.waiting slot label known ?_
    rw [first, told?_cons, told]
    rfl
  · have told : told? mailbox.waiting slot = if e.slot = slot then some e.label else none := by
      rw [first, told?_cons, silent]
      rfl
    rw [view, View.change]
    by_cases about : e.slot = slot
    · rw [if_pos about] at told
      rw [if_pos about.symm]
      exact .inl (h.waiting slot _ known told).symm
    · rw [if_neg about] at told
      rw [if_neg (Ne.symm about)]
      exact h.view following nothing slot known told

/-- A loss is noticed. -/
theorem lose (h : s.Tracks calendar m mailbox) :
    Tracks calendar m { s with stage := .resuming } { mailbox with lost := 0 } :=
  ⟨h.waiting, fun following => nomatch following⟩

end Spectator.Tracks

/-- **What attending to a spectator comes to**: what it is from then on, and what it has still to
read. -/
inductive Spectator.Attended (calendar : Calendar) (m : Register) (s : Spectator)
    (mailbox : Mailbox) : Spectator → Mailbox → Prop where
  | renewed (shot : DaySnapshot) (due : s.stage = .joining ∨ s.stage = .resuming)
      (shown : ∀ slot, calendar slot = some s.day → shot.label slot = m.seen slot) :
      Attended calendar m s mailbox (s.renew shot) mailbox
  | idle (following : s.stage = .following) (kept : mailbox.lost = 0)
      (nothing : mailbox.waiting = []) : Attended calendar m s mailbox s mailbox
  | read (e : RoomEvent) (rest : List RoomEvent) (following : s.stage = .following)
      (kept : mailbox.lost = 0) (first : mailbox.waiting = e :: rest) :
      Attended calendar m s mailbox (s.send (.change e)) { mailbox with waiting := rest }
  | behind (following : s.stage = .following) (lost : mailbox.lost ≠ 0) :
      Attended calendar m s mailbox { s with stage := .resuming } { mailbox with lost := 0 }

/-- How often a spectator must be attended to until there is nothing left to send: a snapshot that
is due, two steps for a loss, and the events that wait. -/
def Spectator.pending (s : Spectator) (mailbox : Mailbox) : Nat :=
  (if s.stage = .following then 0 else 1) + (if mailbox.lost = 0 then 0 else 2) +
    mailbox.waiting.length

namespace Spectator.Attended

variable {calendar : Calendar} {m : Register} {s s' : Spectator} {mailbox mailbox' : Mailbox}
  (attended : s.Attended calendar m mailbox s' mailbox')

include attended

/-- Nobody changes rooms. -/
theorem receiver : s'.receiver = s.receiver := by cases attended <;> rfl

/-- Nobody is sent away. -/
theorem stays : s'.stage ≠ .gone := by
  cases attended with
  | renewed shot due shown => exact fun gone => nomatch gone
  | idle following _ _ => simp [following]
  | read e rest following _ _ => simp [send, following]
  | behind _ _ => exact fun gone => nomatch gone

/-- **Whatever is sent, what the spectator makes of it stays true.** -/
theorem tracks (tracks : s.Tracks calendar m mailbox) : s'.Tracks calendar m mailbox' := by
  cases attended with
  | renewed shot due shown => exact tracks.renew shown
  | idle _ _ _ => exact tracks
  | read e rest _ kept first => exact tracks.read kept first
  | behind _ _ => exact tracks.lose

/-- One thing less is left to do. -/
theorem pending : s'.pending mailbox' = s.pending mailbox - 1 := by
  unfold Spectator.pending
  cases attended with
  | renewed shot due shown =>
    have notYet : s.stage ≠ .following := by rcases due with stage | stage <;> simp [stage]
    rw [if_neg notYet, show (s.renew shot).stage = .following from rfl, if_pos rfl]
    omega
  | idle following kept nothing => simp [following, kept, nothing]
  | read e rest following kept first => simp [send, following, kept, first]
  | behind following lost =>
    rw [if_pos following, if_neg lost]
    show 1 + 0 + mailbox.waiting.length = _
    omega

end Spectator.Attended

/-- **A spectator that has not left is attended to.** -/
theorem Spectator.attended {policy : Policy} {calendar : Calendar} {w : World} {m : Register}
    {s : Spectator} {mailbox : Mailbox} (mirrors : w.Mirrors policy calendar m)
    (own : w.rooms.mailbox? s.receiver = some mailbox) (stays : s.stage ≠ .gone) :
    ∃ rooms metrics s' mailbox', w.attend s = ({ w with rooms, metrics }, s') ∧
      w.rooms.Reads rooms s.receiver mailbox' ∧ s.Attended calendar m mailbox s' mailbox' := by
  obtain ⟨shot, snapped, shown⟩ := mirrors.run_snapshot s.day
  cases stage : s.stage with
  | joining =>
    exact ⟨_, _, _, mailbox, World.attend_due (.inl stage) snapped, .refl own,
      .renewed shot (.inl stage) shown⟩
  | resuming =>
    exact ⟨_, _, _, mailbox, World.attend_due (.inr stage) snapped, .refl own,
      .renewed shot (.inr stage) shown⟩
  | gone => exact absurd stage stays
  | following =>
    rw [World.attend_following stage, Hub.receive_of_mailbox own, Mailbox.take?]
    by_cases kept : mailbox.lost = 0
    · rw [if_neg (not_not_intro kept)]
      cases waiting : mailbox.waiting with
      | nil => exact ⟨_, _, _, mailbox, rfl, .refl own, .idle stage kept waiting⟩
      | cons e rest =>
        exact ⟨_, _, _, _, rfl, Hub.reads_setMailbox own _, .read e rest stage kept waiting⟩
    · rw [if_pos kept]
      exact ⟨_, _, _, _, rfl, Hub.reads_setMailbox own _, .behind stage kept⟩

/-! ## All spectators -/

section places

variable {α : Type} {l : List α} {a b : α} {i j : Nat}

/-- Who is in a place after someone came was there before or is the one who came. -/
theorem of_getElem?_concat (there : (l ++ [a])[i]? = some b) :
    l[i]? = some b ∨ i = l.length ∧ b = a := by
  rw [List.getElem?_append] at there
  split at there
  · exact .inl there
  · rename_i new
    rw [List.getElem?_singleton] at there
    split at there
    · exact .inr ⟨by omega, (Option.some.inj there).symm⟩
    · cases there

/-- Who is in a place after one place changed hands is the new one or was there before. -/
theorem of_getElem?_set (there : (l.set i a)[j]? = some b) :
    j = i ∧ b = a ∨ j ≠ i ∧ l[j]? = some b := by
  rw [List.getElem?_set] at there
  split at there
  · rename_i same
    split at there
    · exact .inl ⟨same.symm, (Option.some.inj there).symm⟩
    · cases there
  · rename_i other
    exact .inr ⟨Ne.symm other, there⟩

end places

/-- **The scene keeps up with a register**: its world mirrors the register, and every spectator that
has not left has a mailbox of its own and sees, or will read, how the slots look. -/
structure Scene.Keeps (policy : Policy) (calendar : Calendar) (σ : Scene) (m : Register) : Prop where
  mirrors : σ.world.Mirrors policy calendar m
  sound : m.Sound calendar
  numbered : σ.world.rooms.Numbered
  given : ∀ (i : Nat) (s : Spectator), σ.spectators[i]? = some s → s.receiver.id < σ.world.rooms.joined
  apart : ∀ (i j : Nat) (s s' : Spectator), σ.spectators[i]? = some s → σ.spectators[j]? = some s' →
    s.receiver.id = s'.receiver.id → i = j
  tracks : ∀ (i : Nat) (s : Spectator), σ.spectators[i]? = some s → s.stage ≠ .gone →
    ∃ mailbox, σ.world.rooms.mailbox? s.receiver = some mailbox ∧ s.Tracks calendar m mailbox

namespace Scene.Keeps

variable {policy : Policy} {calendar : Calendar} {σ : Scene} {m m' : Register}
  {w' : World} {s s' : Spectator} {i : Nat}

/-- A scene without spectators, and without rooms, in a world where nothing was stored. -/
theorem of_unused {w : World} (unused : w.store.entries = .empty) (nobody : w.rooms = {}) :
    Keeps policy w.calendar ⟨w, []⟩ w.register where
  mirrors := .of_unused unused
  sound := .of_unheld rfl
  numbered := by simpa [nobody] using Hub.numbered_empty
  given := by simp
  apart := by simp
  tracks := by simp

/-- Something is done and announced. -/
theorem tell (keeps : σ.Keeps policy calendar m) {es : List RoomEvent}
    (mirrors : w'.Mirrors policy calendar m') (tells : m.Tells calendar es m')
    (rooms : w'.rooms = σ.world.rooms.emitAll es) :
    Keeps policy calendar { σ with world := w' } m' where
  mirrors := mirrors
  sound := tells.sound
  numbered := by simpa [rooms] using keeps.numbered.emitAll es
  given := by simpa [rooms] using keeps.given
  apart := keeps.apart
  tracks i s there stays := by
    obtain ⟨mailbox, own, tracks⟩ := keeps.tracks i s there stays
    refine ⟨_, ?_, tracks.tell tells⟩
    simp only [rooms, Hub.mailbox?_emitAll, own, Option.map_some]
    rfl

/-- Something goes on of which nobody is told. -/
theorem pass (keeps : σ.Keeps policy calendar m) (mirrors : w'.Mirrors policy calendar m')
    (holds : m'.holds = m.holds) (booked : m'.booked = m.booked) (later : m.clock ≤ m'.clock)
    (rooms : w'.rooms = σ.world.rooms) : Keeps policy calendar { σ with world := w' } m' where
  mirrors := mirrors
  sound := ⟨by simpa [holds, booked] using keeps.sound.unheld, by simpa [holds] using keeps.sound.day⟩
  numbered := by simpa [rooms] using keeps.numbered
  given := by simpa [rooms] using keeps.given
  apart := keeps.apart
  tracks i s there stays := by
    obtain ⟨mailbox, own, tracks⟩ := keeps.tracks i s there stays
    exact ⟨mailbox, by simpa [rooms] using own, tracks.of_same holds booked later⟩

/-- An empty room is taken away. -/
theorem prune (keeps : σ.Keeps policy calendar m) (day : Day) :
    Keeps policy calendar
      { σ with world := { σ.world with rooms := σ.world.rooms.prune day } } m where
  mirrors := keeps.mirrors.beside _ _
  sound := keeps.sound
  numbered := keeps.numbered.prune day
  given := by simpa using keeps.given
  apart := keeps.apart
  tracks := by simpa using keeps.tracks

/-- Someone joins. -/
theorem join (keeps : σ.Keeps policy calendar m) (day : Day) :
    (σ.next policy (.join day)).Keeps policy calendar m := by
  have joined : (σ.next policy (.join day)).world.rooms.joined = σ.world.rooms.joined + 1 := rfl
  refine ⟨keeps.mirrors.beside _ _, keeps.sound, keeps.numbered.join day, ?_, ?_, ?_⟩
  · intro i s there
    rcases of_getElem?_concat there with before | ⟨-, rfl⟩
    · have := keeps.given i s before
      omega
    · rw [joined]
      exact Nat.lt_succ_self _
  · intro i j s s' there there' same
    rcases of_getElem?_concat there with before | ⟨rfl, rfl⟩ <;>
      rcases of_getElem?_concat there' with before' | ⟨rfl, rfl⟩
    · exact keeps.apart i j s s' before before' same
    · have := keeps.given i s before
      rw [same] at this
      exact absurd this (Nat.lt_irrefl _)
    · have := keeps.given j s' before'
      rw [← same] at this
      exact absurd this (Nat.lt_irrefl _)
    · rfl
  · intro i s there stays
    rcases of_getElem?_concat there with before | ⟨-, rfl⟩
    · obtain ⟨mailbox, own, tracks⟩ := keeps.tracks i s before stays
      exact ⟨mailbox, (Hub.mailbox?_join day (keeps.given i s before)).trans own, tracks⟩
    · exact ⟨{}, Hub.mailbox?_joined keeps.numbered day, .joining⟩

/-- Something is done to one spectator, of which the others notice nothing. -/
theorem set (keeps : σ.Keeps policy calendar m) (there : σ.spectators[i]? = some s)
    (mirrors : w'.Mirrors policy calendar m) (numbered : w'.rooms.Numbered)
    (joined : w'.rooms.joined = σ.world.rooms.joined) (receiver : s'.receiver = s.receiver)
    (others : ∀ r : Receiver, s.receiver.id ≠ r.id →
      w'.rooms.mailbox? r = σ.world.rooms.mailbox? r)
    (tracks : s'.stage ≠ .gone → ∃ mailbox,
      w'.rooms.mailbox? s.receiver = some mailbox ∧ s'.Tracks calendar m mailbox) :
    Keeps policy calendar ⟨w', σ.spectators.set i s'⟩ m := by
  have before : ∀ {j : Nat} {s₁ : Spectator}, (σ.spectators.set i s')[j]? = some s₁ →
      ∃ s₀, σ.spectators[j]? = some s₀ ∧ s₁.receiver = s₀.receiver := by
    intro j s₁ there'
    rcases of_getElem?_set there' with ⟨rfl, rfl⟩ | ⟨-, there'⟩
    · exact ⟨s, there, receiver⟩
    · exact ⟨s₁, there', rfl⟩
  refine ⟨mirrors, keeps.sound, numbered, ?_, ?_, ?_⟩
  · intro j s₁ there'
    obtain ⟨s₀, there₀, same⟩ := before there'
    rw [same, joined]
    exact keeps.given j s₀ there₀
  · intro j k s₁ s₂ there₁ there₂ same
    obtain ⟨s₃, there₃, same₃⟩ := before there₁
    obtain ⟨s₄, there₄, same₄⟩ := before there₂
    rw [same₃, same₄] at same
    exact keeps.apart j k s₃ s₄ there₃ there₄ same
  · intro j s₁ there' stays
    rcases of_getElem?_set there' with ⟨rfl, rfl⟩ | ⟨other, there'⟩
    · rw [receiver]
      exact tracks stays
    · obtain ⟨mailbox, own, tracks⟩ := keeps.tracks j s₁ there' stays
      refine ⟨mailbox, (others _ fun same => ?_).trans own, tracks⟩
      exact other (keeps.apart j i s₁ s there' there same.symm)

/-- Someone leaves. -/
theorem leave (keeps : σ.Keeps policy calendar m) (i : Nat) :
    (σ.next policy (.leave i)).Keeps policy calendar m := by
  cases there : σ.spectators[i]? with
  | none => rwa [(Scene.next_missing there).2]
  | some s =>
    rw [Scene.next_leave there]
    exact keeps.set there (keeps.mirrors.beside _ _) (keeps.numbered.leave _)
      (Hub.joined_leave _ _) rfl
      (fun r other => Hub.mailbox?_leave fun same => other (congrArg Receiver.id same))
      fun stays => absurd rfl stays

/-- **A spectator that has not left is attended to.** -/
theorem attended (keeps : σ.Keeps policy calendar m) (there : σ.spectators[i]? = some s)
    (stays : s.stage ≠ .gone) {mailbox : Mailbox}
    (own : σ.world.rooms.mailbox? s.receiver = some mailbox) :
    ∃ w' s' mailbox', σ.next policy (.attend i) = ⟨w', σ.spectators.set i s'⟩ ∧
      Keeps policy calendar ⟨w', σ.spectators.set i s'⟩ m ∧
      w'.rooms.mailbox? s'.receiver = some mailbox' ∧
      s.Attended calendar m mailbox s' mailbox' := by
  obtain ⟨rooms, metrics, s', mailbox', attend, reads, attended⟩ :=
    Spectator.attended keeps.mirrors own stays
  refine ⟨{ σ.world with rooms, metrics }, s', mailbox', ?_, ?_, ?_, attended⟩
  · rw [Scene.next_attend there, attend]
  · obtain ⟨mailbox₀, own₀, tracks⟩ := keeps.tracks i s there stays
    obtain rfl : mailbox₀ = mailbox := Option.some.inj (own₀.symm.trans own)
    exact keeps.set there (keeps.mirrors.beside metrics rooms) (reads.numbered keeps.numbered)
      reads.joined attended.receiver reads.others fun _ => ⟨mailbox', reads.own, attended.tracks tracks⟩
  · rw [attended.receiver]
    exact reads.own

/-- **A spectator is attended to.** -/
theorem attend (keeps : σ.Keeps policy calendar m) (i : Nat) :
    (σ.next policy (.attend i)).Keeps policy calendar m := by
  cases there : σ.spectators[i]? with
  | none => rwa [(Scene.next_missing there).1]
  | some s =>
    by_cases gone : s.stage = .gone
    · rw [Scene.next_attend there, World.attend_gone gone]
      exact keeps.set there keeps.mirrors keeps.numbered rfl rfl (fun _ _ => rfl)
        fun stays => absurd gone stays
    · obtain ⟨mailbox, own, -⟩ := keeps.tracks i s there gone
      obtain ⟨w', s', mailbox', next, keeps', -⟩ := keeps.attended there gone own
      rwa [next]

/-- **One turn.** -/
theorem next (keeps : σ.Keeps policy calendar m) (turn : Turn) :
    ∃ m', (σ.next policy turn).Keeps policy calendar m' := by
  cases turn with
  | call c =>
    obtain ⟨es, m', mirrors, tells, rooms⟩ := keeps.mirrors.announces_call keeps.sound c
    exact ⟨m', keeps.tell mirrors tells rooms⟩
  | wait milliseconds =>
    exact ⟨_, keeps.pass (keeps.mirrors.wait milliseconds) rfl rfl (Nat.le_add_right _ _) rfl⟩
  | regulate a => exact ⟨_, keeps.pass (keeps.mirrors.regulate a) rfl rfl (Nat.le_refl _) rfl⟩
  | join day => exact ⟨m, keeps.join day⟩
  | attend i => exact ⟨m, keeps.attend i⟩
  | leave i => exact ⟨m, keeps.leave i⟩
  | prune day => exact ⟨m, keeps.prune day⟩

/-- **Any number of turns.** -/
theorem after (keeps : σ.Keeps policy calendar m) (turns : List Turn) :
    ∃ m', (σ.after policy turns).Keeps policy calendar m' := by
  induction turns generalizing σ m with
  | nil => exact ⟨m, keeps⟩
  | cons turn turns ih =>
    obtain ⟨m', keeps'⟩ := keeps.next turn
    exact ih keeps'

/-- What ran out is taken away. -/
theorem reap (keeps : σ.Keeps policy calendar m) :
    (σ.next policy (.call .reap)).Keeps policy calendar m.reap.2 := by
  have same : (σ.world.run (Call.program policy .reap)).2 = (σ.world.run Reservation.reap).2 := by
    rw [← World.run_attempt Reservation.reap]
    exact World.run_map _ _ _
  refine keeps.tell ?_ (keeps.mirrors.tells_reap keeps.sound) ?_
  · rw [same]
    exact keeps.mirrors.follows_reap.2
  · rw [same]
    exact World.Mirrors.rooms_reap σ.world

/-- Spectators come and go, and nothing else goes on. -/
theorem aside (keeps : σ.Keeps policy calendar m) {turns : List Turn}
    (aside : ∀ turn ∈ turns, turn.isAside = true) : (σ.after policy turns).Keeps policy calendar m := by
  induction turns generalizing σ with
  | nil => exact keeps
  | cons turn turns ih =>
    have isAside := aside turn List.mem_cons_self
    have keeps' : (σ.next policy turn).Keeps policy calendar m := by
      cases turn with
      | join day => exact keeps.join day
      | attend i => exact keeps.attend i
      | leave i => exact keeps.leave i
      | prune day => exact keeps.prune day
      | call c => cases isAside
      | wait milliseconds => cases isAside
      | regulate a => cases isAside
    exact ih keeps' fun turn mem => aside turn (List.mem_cons_of_mem _ mem)

/-- **Whoever has not left has been sent everything in the end**, when it is attended to for as long
as something is pending. -/
theorem catch_up (keeps : σ.Keeps policy calendar m) (there : σ.spectators[i]? = some s)
    (stays : s.stage ≠ .gone) {mailbox : Mailbox}
    (own : σ.world.rooms.mailbox? s.receiver = some mailbox) {n : Nat}
    (pending : s.pending mailbox = n) :
    ∃ s', (σ.after policy (.replicate n (.attend i))).spectators[i]? = some s' ∧
      s'.receiver = s.receiver ∧
      s'.UpToDate (σ.after policy (.replicate n (.attend i))).world := by
  induction n generalizing σ s mailbox with
  | zero =>
    refine ⟨s, there, rfl, ?_⟩
    unfold Spectator.pending at pending
    have following : s.stage = .following := by
      refine Decidable.byContradiction fun other => ?_
      rw [if_neg other] at pending
      omega
    have kept : mailbox.lost = 0 := by
      refine Decidable.byContradiction fun lost => ?_
      rw [if_neg lost] at pending
      omega
    have nothing : mailbox.waiting = [] := List.eq_nil_of_length_eq_zero (by omega)
    refine ⟨following, ?_⟩
    show σ.world.rooms.unread s.receiver = {}
    rw [Hub.unread_eq, own, Option.getD_some]
    exact congr (congrArg Mailbox.mk kept) nothing
  | succ n ih =>
    obtain ⟨w', s', mailbox', next, keeps', own', attended⟩ := keeps.attended there stays own
    have inside : i < σ.spectators.length := (List.getElem?_eq_some_iff.1 there).1
    have there' : (σ.spectators.set i s')[i]? = some s' := List.getElem?_set_self inside
    obtain ⟨s'', last, receiver, upToDate⟩ :=
      ih keeps' there' attended.stays own' (by rw [attended.pending, pending, Nat.add_sub_cancel])
    have turns : σ.after policy (.replicate (n + 1) (.attend i)) =
        Scene.after policy ⟨w', σ.spectators.set i s'⟩ (.replicate n (.attend i)) := by
      rw [← next]
      rfl
    rw [turns]
    exact ⟨s'', last, receiver.trans attended.receiver, upToDate⟩

/-- Who has been sent everything sees how the slots look. -/
theorem view_of_upToDate (keeps : σ.Keeps policy calendar m) (there : σ.spectators[i]? = some s)
    (upToDate : s.UpToDate σ.world) {slot : SlotId} (known : calendar slot = some s.day) :
    m.Shows slot (s.view slot) := by
  obtain ⟨following, read⟩ := upToDate
  obtain ⟨mailbox, own, tracks⟩ := keeps.tracks i s there (by simp [following])
  rw [Hub.unread_eq, own] at read
  obtain rfl : mailbox = {} := read
  exact tracks.view following rfl slot known rfl

end Scene.Keeps

/-- **Whoever has been sent everything sees the slots as a snapshot shows them**, when what ran out
was just taken away. -/
theorem Scene.view_eq_snapshot (policy : Policy) (w : World) (unused : w.store.entries = .empty)
    (nobody : w.rooms = {}) (turns aside : List Turn)
    (isAside : ∀ turn ∈ aside, turn.isAside = true) (σ : Scene)
    (final : (Scene.mk w []).after policy (turns ++ .call .reap :: aside) = σ) (i : Nat)
    (s : Spectator) (there : σ.spectators[i]? = some s) (upToDate : s.UpToDate σ.world) :
    ∃ shot, (σ.world.run (snapshot s.day)).1 = .ok shot ∧
      ∀ slot, σ.world.calendar slot = some s.day → s.view slot = shot.label slot := by
  obtain ⟨m, keeps⟩ := Keeps.after (Keeps.of_unused unused nobody : Keeps policy _ _ _) turns
  have keeps' := keeps.reap.aside isAside
  have same : (((Scene.mk w []).after policy turns).next policy (.call .reap)).after policy aside =
      σ := by
    rw [← final, Scene.after_append]
    rfl
  rw [same] at keeps'
  obtain ⟨shot, snapped, shown⟩ := keeps'.mirrors.run_snapshot s.day
  refine ⟨shot, by rw [snapped], fun slot known => ?_⟩
  rw [keeps'.mirrors.calendar_eq] at known
  rw [shown slot known]
  rcases keeps'.view_of_upToDate there upToDate known with label | seen
  · rw [label, Register.label_reap]
  · exact seen

/-- Two slots are held, one of them before the snapshot is taken. One is booked, and the hold on the
other runs out. -/
def Scene.watching : List Turn :=
  [.join Run.openingDay, .call (.acquire 1 { holder := ⟨"a"⟩ } 100), .attend 0,
    .call (.acquire 2 { holder := ⟨"b"⟩ } 100), .attend 0, .call (.commit 1 { holder := ⟨"a"⟩ }),
    .wait 100]

/-- What ran out is taken away, and then the spectator reads what it has not read yet. -/
def Scene.watched : Scene :=
  (Scene.mk (.offering Run.openingDay [1, 2]) []).after {}
    (watching ++ .call .reap :: List.replicate 3 (.attend 0))

/-- The spectator sees that one slot is booked and the other one free, as a snapshot shows. -/
theorem Scene.watched_view : ∃ s shot, watched.spectators[0]? = some s ∧ s.UpToDate watched.world ∧
    s.view 1 = .booked ∧ s.view 2 = .free ∧ (watched.world.run (snapshot s.day)).1 = .ok shot ∧
      ∀ slot, watched.world.calendar slot = some s.day → s.view slot = shot.label slot := by
  have inside : 0 < watched.spectators.length := by decide +kernel
  have view : watched.spectators[0].view 1 = .booked ∧ watched.spectators[0].view 2 = .free := by
    decide +kernel +revert
  have upToDate : watched.spectators[0].UpToDate watched.world := by
    unfold Spectator.UpToDate
    clear view
    decide +kernel +revert
  obtain ⟨shot, snapped, same⟩ := Scene.view_eq_snapshot {} (.offering Run.openingDay [1, 2]) rfl rfl
    watching (List.replicate 3 (.attend 0)) (by decide) watched rfl 0 _
    (List.getElem?_eq_getElem inside) upToDate
  exact ⟨_, shot, List.getElem?_eq_getElem inside, upToDate, view.1, view.2, snapped, same⟩

/-- **Whoever has not left has been sent everything**, when it is attended to often enough. -/
theorem Scene.exists_upToDate (policy : Policy) (w : World) (unused : w.store.entries = .empty)
    (nobody : w.rooms = {}) (turns : List Turn) (σ : Scene)
    (reached : (Scene.mk w []).after policy turns = σ) (i : Nat) (s : Spectator)
    (there : σ.spectators[i]? = some s) (stays : s.stage ≠ .gone) :
    ∃ n s', (σ.after policy (.replicate n (.attend i))).spectators[i]? = some s' ∧
      s'.receiver = s.receiver ∧ s'.UpToDate (σ.after policy (.replicate n (.attend i))).world := by
  obtain ⟨m, keeps⟩ := Keeps.after (Keeps.of_unused unused nobody : Keeps policy _ _ _) turns
  rw [reached] at keeps
  obtain ⟨mailbox, own, -⟩ := keeps.tracks i s there stays
  exact ⟨_, keeps.catch_up there stays own rfl⟩

end Holdfast.Reservation
