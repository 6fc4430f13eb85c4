import Holdfast.Proofs.Register.Announcing
import Holdfast.Proofs.Room.Spectator
import Holdfast.Proofs.Service.Steady

/-!
# What the service sends to a spectator

The service attends to the spectators: a client that joins a day is sent what `World.attend` makes
of a spectator that just came (`joinDay_eq`), and forwarding a room to a client is attending to a
spectator until it has been sent everything (`forwardRoom_eq`). The service does several steps of a
spectator at once, between which the scenes of `Scene.next` admit calls.

A program of a tenant works on a part of the service, its world. What is sent to a client is in
another part.
-/

namespace Holdfast

open Reservation Socket

/-! ## The world of a tenant -/

namespace Registry

variable (r : Registry) (key : String) (b b' : Backend)

/-- A loaded tenant has the backend that it was given. -/
theorem backend_setBackend (loaded : (r.tenants.get? key).isSome) :
    (r.setBackend key b).backend key = b := by
  obtain ⟨t, there⟩ := Option.isSome_iff_exists.1 loaded
  simp [backend, setBackend, there]

/-- Of two backends that a tenant is given, it has the second one. -/
theorem setBackend_setBackend :
    (r.setBackend key b).setBackend key b' = r.setBackend key b' := by
  unfold setBackend
  cases there : r.tenants.get? key with
  | none => simp [there]
  | some t =>
    simp only [SortedMap.get?_insert_self, Registry.mk.injEq, true_and, and_true]
    refine SortedMap.ext_get? fun key' => ?_
    by_cases same : key' = key
    · simp [same]
    · simp [SortedMap.get?_insert_ne _ same]

end Registry

namespace Service

variable {s : Service} {tenant : String} {w w' : World} {n : Nat}

/-- What the programs of a tenant work on. -/
def world (s : Service) (tenant : String) : World :=
  { toBackend := s.registry.backend tenant, clock := s.clock, metrics := s.metrics }

/-- The service with what the programs of a tenant made of it. -/
def setWorld (s : Service) (tenant : String) (w : World) : Service :=
  { s with registry := s.registry.setBackend tenant w.toBackend, metrics := w.metrics }

/-- A world that was put back is found there. -/
theorem world_setWorld (loaded : (s.registry.tenants.get? tenant).isSome) (now : w.clock = s.clock) :
    (s.setWorld tenant w).world tenant = w := by
  unfold world setWorld
  rw [s.registry.backend_setBackend tenant w.toBackend loaded, ← now]

/-- Of two worlds that are put back, the second one is found. -/
theorem setWorld_setWorld : (s.setWorld tenant w).setWorld tenant w' = s.setWorld tenant w' := by
  unfold setWorld
  rw [s.registry.setBackend_setBackend tenant w.toBackend w'.toBackend]

/-! ## What is sent -/

/-- The service when a client was told some things. -/
def tellAll (s : Service) (n : Nat) (frames : List ServerEvent) : Service :=
  frames.foldl (fun s e => (tell n e s).2) s

/-- Some things after some others. -/
theorem tellAll_append (frames frames' : List ServerEvent) :
    (s.tellAll n frames).tellAll n frames' = s.tellAll n (frames ++ frames') := by
  simp [tellAll]

/-- What is left of a change is the changed state. -/
theorem modify_apply (f : Service → Service) : (modify f : Action Unit) s = ((), f s) := rfl

/-- A client that there is has one more thing in its outbox. -/
theorem tell_there {session : Session} (there : s.sessions.get? n = some session) (e : ServerEvent) :
    (tell n e s).2 = { s with
      sessions := s.sessions.insert n { session with outbox := session.outbox ++ [.event e] } } := by
  unfold tell send changeSession
  simp only [modify_apply, there]

/-- Nobody is told something where there is no client. -/
theorem tell_missing (missing : s.sessions.get? n = none) (e : ServerEvent) : (tell n e s).2 = s := by
  unfold tell send changeSession
  simp only [modify_apply, missing]

/-- What a client is told is no business of a tenant's programs. -/
theorem world_tellAll (frames : List ServerEvent) :
    (s.tellAll n frames).world tenant = s.world tenant := by
  induction frames generalizing s with
  | nil => rfl
  | cons e frames ih =>
    refine (ih (s := (tell n e s).2)).trans ?_
    cases there : s.sessions.get? n with
    | none => rw [tell_missing there]
    | some session =>
      rw [tell_there there]
      rfl

/-- Telling a client something and putting back a world go past each other. -/
theorem setWorld_tellAll (frames : List ServerEvent) :
    (s.tellAll n frames).setWorld tenant w = (s.setWorld tenant w).tellAll n frames := by
  induction frames generalizing s with
  | nil => rfl
  | cons e frames ih =>
    have one : (tell n e s).2.setWorld tenant w = (tell n e (s.setWorld tenant w)).2 := by
      cases there : s.sessions.get? n with
      | none => rw [tell_missing there, tell_missing (s := s.setWorld tenant w) there]
      | some session =>
        rw [tell_there there, tell_there (s := s.setWorld tenant w) there]
        rfl
    show ((tell n e s).2.tellAll n frames).setWorld tenant w = _
    rw [ih, one]
    rfl

section snapshot

variable {session : Session} {day : Day} {shot : DaySnapshot} {e : Failure}

/-- A program of a tenant runs in its world. -/
theorem runFor_apply {ε α : Type} {p : Program ε α} {r : Except ε α}
    (ran : (s.world tenant).run p = (r, w)) :
    runFor tenant p s = (r, s.setWorld tenant w) := by
  show (((s.world tenant).run p).1, s.setWorld tenant ((s.world tenant).run p).2) = _
  rw [ran]

/-- A snapshot that can be had is told. -/
theorem tellSnapshot_ok (taken : (s.world session.tenant).run (snapshot day) = (.ok shot, w)) :
    tellSnapshot n session day s =
      (true, (s.setWorld session.tenant w).tellAll n [.snapshot shot]) := by
  unfold tellSnapshot
  exact bind_apply (runFor_apply taken)

/-- Otherwise it is told why there is none. -/
theorem tellSnapshot_error (failed : (s.world session.tenant).run (snapshot day) = (.error e, w)) :
    tellSnapshot n session day s =
      (false, (s.setWorld session.tenant w).tellAll n [.error e.code]) := by
  unfold tellSnapshot
  exact bind_apply (runFor_apply failed)

variable (loaded : (s.registry.tenants.get? session.tenant).isSome) (now : w.clock = s.clock)
  (lost : Nat)

include loaded now

/-- Who lost something is told a snapshot. -/
theorem forward_lost_ok
    (taken : ({ w with metrics := w.metrics.add .roomLagged 1 } : World).run (snapshot day) =
      (.ok shot, w')) :
    forwardNotice n session day (.lost lost) (s.setWorld session.tenant w) =
      ((), (s.setWorld session.tenant w').tellAll n [.snapshot shot]) := by
  rw [← world_setWorld (w := { w with metrics := w.metrics.add .roomLagged 1 }) loaded now] at taken
  refine (bind_apply (x := add .roomLagged 1) rfl).trans ((bind_apply (runFor_apply taken)).trans ?_)
  rw [setWorld_setWorld]
  rfl

/-- Nothing is told where none can be had. -/
theorem forward_lost_error
    (failed : ({ w with metrics := w.metrics.add .roomLagged 1 } : World).run (snapshot day) =
      (.error e, w')) :
    forwardNotice n session day (.lost lost) (s.setWorld session.tenant w) =
      ((), s.setWorld session.tenant w') := by
  rw [← world_setWorld (w := { w with metrics := w.metrics.add .roomLagged 1 }) loaded now] at failed
  refine (bind_apply (x := add .roomLagged 1) rfl).trans ((bind_apply (runFor_apply failed)).trans ?_)
  rw [setWorld_setWorld]
  rfl

end snapshot

end Service

/-! ## Many steps -/

namespace Reservation.World

/-- So many steps of what is sent to a spectator. -/
def attends (w : World) (s : Spectator) : Nat → World × Spectator
  | 0 => (w, s)
  | n + 1 => (w.attend s).1.attends (w.attend s).2 n

/-- Looking comes to the same whatever the rooms are. -/
theorem run_beside {ε α : Type} {p : Program ε α} (looks : p.Looks) (w : World) (rooms : Hub) :
    ({ w with rooms } : World).run p = ((w.run p).1, { (w.run p).2 with rooms }) := by
  have step : ∀ {e : Effect}, e.looks = true → ∀ w : World,
      ({ w with rooms } : World).perform e =
        ((w.perform e).1, { (w.perform e).2 with rooms }) := by
    intro e looks w
    cases e with
    | store r => rfl
    | announce e => cases looks
    | book slot => cases looks
    | _ => rfl
  induction p generalizing w with
  | done a => rfl
  | fail e => rfl
  | ask e next ih =>
    rw [run_ask, run_ask, step looks.1]
    exact ih _ (looks.2 _) _

variable {w : World} {s : Spectator}

/-- What waits for a spectator is sent in so many steps, and then there is nothing to read. -/
theorem attends_waiting (following : s.stage = .following) (numbered : w.rooms.Numbered)
    {es : List RoomEvent} (own : w.rooms.mailbox? s.receiver = some { waiting := es }) :
    w.attends s es.length =
      ({ w with rooms := w.rooms.setMailbox s.receiver {} },
        { s with frames := s.frames ++ es.map .change }) := by
  induction es generalizing w s with
  | nil =>
    rw [Hub.setMailbox_self numbered own]
    simp [attends]
  | cons e es ih =>
    have step : w.attend s =
        ({ w with rooms := w.rooms.setMailbox s.receiver { waiting := es } },
          s.send (.change e)) := by
      rw [attend_following following, Hub.receive_of_mailbox own]
      rfl
    have later := ih (w := (w.attend s).1) (s := (w.attend s).2)
    rw [step] at later
    show (w.attend s).1.attends (w.attend s).2 es.length = _
    rw [step, later following (numbered.setMailbox _ _) (Hub.reads_setMailbox own _).own]
    simp [Spectator.send, Hub.setMailbox_setMailbox]

end Reservation.World

namespace Service

variable {s : Service} {n : Nat} {session : Session}

/-- **A client that joins a day is attended to as a spectator that just came**, and forwarded to
from then on if there was a snapshot. -/
theorem joinDay_eq (day : Day) (new : session.rooms.get? day = none)
    (room : session.rooms.size < maxRooms)
    (loaded : (s.registry.tenants.get? session.tenant).isSome) {receiver : Receiver} {rooms : Hub}
    (joined : (s.world session.tenant).rooms.join day = (receiver, rooms)) :
    ∃ w sp, ({ s.world session.tenant with rooms } : World).attend
          { receiver, frames := [.joinedDay day] } = (w, sp) ∧
      joinDay n session day s =
        (if sp.stage = .following then
          changeSession n fun session => { session with rooms := session.rooms.insert day receiver }
        else pure ()) ((s.setWorld session.tenant w).tellAll n sp.frames) := by
  obtain ⟨rfl, rfl⟩ : ((s.world session.tenant).rooms.join day).1 = receiver ∧
      ((s.world session.tenant).rooms.join day).2 = rooms :=
    ⟨congrArg Prod.fst joined, congrArg Prod.snd joined⟩
  let receiver := ((s.world session.tenant).rooms.join day).1
  let w : World :=
    { s.world session.tenant with rooms := ((s.world session.tenant).rooms.join day).2 }
  let s₁ : Service := (s.setWorld session.tenant w).tellAll n [.joinedDay day]
  have found : s₁.world session.tenant = w := (world_tellAll _).trans (world_setWorld loaded rfl)
  have put : ∀ w', s₁.setWorld session.tenant w' =
      (s.setWorld session.tenant w').tellAll n [.joinedDay day] := fun w' => by
    rw [setWorld_tellAll, setWorld_setWorld]
  have begun : joinDay n session day s =
      (if (tellSnapshot n session day s₁).1 then
        changeSession n fun session => { session with rooms := session.rooms.insert day receiver }
      else changeRooms session.tenant fun h => ((), h.leave receiver))
        (tellSnapshot n session day s₁).2 := by
    unfold joinDay
    rw [new, if_neg (by simp), if_neg (by omega)]
    rfl
  obtain ⟨metrics, looked⟩ := World.run_of_looks (looks_snapshot day) w
  rw [begun]
  rcases taken : w.run (snapshot day) with ⟨r, w'⟩
  rw [taken] at looked
  obtain rfl : w' = { w with metrics } := looked
  cases r with
  | ok shot =>
    refine ⟨_, _, World.attend_due (.inl rfl) taken, ?_⟩
    rw [tellSnapshot_ok (by rw [found, taken]), put, tellAll_append]
    rfl
  | error e =>
    refine ⟨_, _, World.attend_refused rfl taken, ?_⟩
    rw [tellSnapshot_error (by rw [found, taken]), put, tellAll_append]
    let s₂ : Service := (s.setWorld session.tenant { w with metrics }).tellAll n
      ([.joinedDay day] ++ [.error e.code])
    have back : s₂.world session.tenant = { w with metrics } :=
      (world_tellAll _).trans (world_setWorld loaded rfl)
    show ((), s₂.setWorld session.tenant
      { s₂.world session.tenant with rooms := (s₂.world session.tenant).rooms.leave receiver }) = _
    rw [back, setWorld_tellAll, setWorld_setWorld]
    rfl

/-- Forwarding events is telling them. -/
theorem forward_events (day : Day) (es : List RoomEvent) :
    (es.map Notice.event).forM (forwardNotice n session day) s =
      ((), s.tellAll n (es.map .change)) := by
  induction es generalizing s with
  | nil => rfl
  | cons e es ih => exact ih

/-- What makes up for a loss is the same for a client and for a spectator, whatever the rooms are. -/
theorem forward_lost_eq (loaded : (s.registry.tenants.get? session.tenant).isSome) {w : World}
    (now : w.clock = s.clock) (sp : Spectator) (following : sp.stage = .following) (lost : Nat)
    (rooms rooms' : Hub) :
    ∃ metrics frames,
      ({ w with rooms, metrics := w.metrics.add .roomLagged 1 } : World).attend
          { sp with stage := .resuming } =
        ({ w with rooms, metrics }, { sp with frames := sp.frames ++ frames }) ∧
      forwardNotice n session sp.day (.lost lost)
          (s.setWorld session.tenant { w with rooms := rooms' }) =
        ((), (s.setWorld session.tenant { w with rooms := rooms', metrics }).tellAll n frames) := by
  let w₁ : World := { w with rooms, metrics := w.metrics.add .roomLagged 1 }
  obtain ⟨metrics, looked⟩ := World.run_of_looks (looks_snapshot sp.day) w₁
  have beside := World.run_beside (looks_snapshot sp.day) w₁ rooms'
  rcases taken : w₁.run (snapshot sp.day) with ⟨r, w'⟩
  rw [taken] at beside looked
  obtain rfl : w' = { w₁ with metrics } := looked
  cases r with
  | ok shot =>
    refine ⟨metrics, [.snapshot shot], ?_,
      forward_lost_ok (w := { w with rooms := rooms' }) loaded now lost beside⟩
    rw [World.attend_due (s := { sp with stage := .resuming }) (.inr rfl) taken]
    simp [Spectator.renew, Spectator.send, following, w₁]
  | error e =>
    refine ⟨metrics, [], ?_,
      forward_lost_error (w := { w with rooms := rooms' }) loaded now lost beside⟩
    rw [World.attend_failed (s := { sp with stage := .resuming }) rfl taken]
    simp [following, w₁]

/-- **Forwarding a room is attending to a spectator until it has been sent everything.** -/
theorem forwardRoom_eq (sp : Spectator) (following : sp.stage = .following)
    (loaded : (s.registry.tenants.get? session.tenant).isSome)
    (numbered : (s.world session.tenant).rooms.Numbered) {mailbox : Mailbox}
    (own : (s.world session.tenant).rooms.mailbox? sp.receiver = some mailbox) :
    ∃ k w frames,
      (s.world session.tenant).attends sp k = (w, { sp with frames := sp.frames ++ frames }) ∧
      Spectator.UpToDate w { sp with frames := sp.frames ++ frames } ∧
      forwardRoom n session sp.day sp.receiver s =
        ((), (s.setWorld session.tenant w).tellAll n frames) := by
  let w := s.world session.tenant
  let left : Hub := w.rooms.setMailbox sp.receiver {}
  have drained : w.rooms.drain sp.receiver = (mailbox.notices, left) := by
    rw [Hub.drain, Hub.unread_eq, own, Option.getD_some]
  have forwarded : forwardRoom n session sp.day sp.receiver s =
      mailbox.notices.forM (forwardNotice n session sp.day)
        (s.setWorld session.tenant { w with rooms := left }) := by
    show (w.rooms.drain sp.receiver).1.forM (forwardNotice n session sp.day)
      (s.setWorld session.tenant { w with rooms := (w.rooms.drain sp.receiver).2 }) = _
    rw [drained]
  have nothing : left.unread sp.receiver = {} := by
    rw [Hub.unread_eq, (Hub.reads_setMailbox own _).own, Option.getD_some]
  obtain ⟨lost, es⟩ := mailbox
  by_cases kept : lost = 0
  · subst kept
    refine ⟨es.length, { w with rooms := left }, es.map .change,
      World.attends_waiting following numbered own, ⟨following, nothing⟩, ?_⟩
    rw [forwarded]
    exact forward_events sp.day es
  · -- The loss is noticed, and a snapshot taken, before the rest is read.
    let rooms : Hub := w.rooms.setMailbox sp.receiver { waiting := es }
    have noticed : w.attend sp =
        ({ w with rooms, metrics := w.metrics.add .roomLagged 1 }, { sp with stage := .resuming }) := by
      rw [World.attend_following following, Hub.receive_of_mailbox own, Mailbox.take?, if_pos kept]
    obtain ⟨metrics, frames, resumed, told⟩ :=
      forward_lost_eq (n := n) loaded (w := w) rfl sp following lost rooms left
    have rest := World.attends_waiting (w := { w with rooms, metrics })
      (s := { sp with frames := sp.frames ++ frames }) following (numbered.setMailbox _ _)
      (Hub.reads_setMailbox own _).own
    have notices : Mailbox.notices { lost, waiting := es } = .lost lost :: es.map .event := by
      simp [Mailbox.notices, kept]
    refine ⟨es.length + 2, { w with rooms := left, metrics }, frames ++ es.map .change, ?_,
      ⟨following, nothing⟩, ?_⟩
    · show ((w.attend sp).1.attend (w.attend sp).2).1.attends
        ((w.attend sp).1.attend (w.attend sp).2).2 es.length = _
      rw [noticed, resumed, rest]
      simp [rooms, left, w, Hub.setMailbox_setMailbox]
    · rw [forwarded, notices]
      show (es.map Notice.event).forM (forwardNotice n session sp.day)
        (forwardNotice n session sp.day (.lost lost) _).2 = _
      rw [told, forward_events, tellAll_append]

end Service
end Holdfast
