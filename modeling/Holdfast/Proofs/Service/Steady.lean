import Holdfast.Proofs.Interleaving.Run
import Holdfast.Service.Handle
import Holdfast.Service.Schedule

/-!
# Nothing depends on the metrics

Whatever the service does comes to the same whatever was counted so far, and leaves the settings as they
are (`Service.Steady`). This is so of every request (`steady_handle`), of what clients send
(`steady_receive`), of the work in the background (`steady_settle`, `steady_sleep`) and of a shutdown
(`steady_shutDown`).
-/

namespace Holdfast

namespace Reservation.World

/-- An effect is replied with the same whatever was counted. -/
theorem perform_metrics (w : World) (metrics : Metrics) (e : Effect) :
    ∃ metrics', { w with metrics }.perform e =
      ((w.perform e).1, { (w.perform e).2 with metrics := metrics' }) := by
  cases e <;> exact ⟨_, rfl⟩

/-- **A program comes to the same whatever was counted.** -/
theorem run_metrics {ε α : Type} (p : Program ε α) (w : World) (metrics : Metrics) :
    ∃ metrics', { w with metrics }.run p = ((w.run p).1, { (w.run p).2 with metrics := metrics' }) := by
  induction p generalizing w metrics with
  | done a => exact ⟨metrics, rfl⟩
  | fail e => exact ⟨metrics, rfl⟩
  | ask e next ih =>
    obtain ⟨counted, first⟩ := w.perform_metrics metrics e
    obtain ⟨counted', rest⟩ := ih (w.perform e).1 (w.perform e).2 counted
    refine ⟨counted', ?_⟩
    rw [run_ask, run_ask, first]
    exact rest

end Reservation.World

namespace Service

open Reservation Socket

/-- One action after the other. -/
theorem bind_apply {α β : Type} {x : Action α} {f : α → Action β} {s s' : Service} {a : α}
    (first : x s = (a, s')) : (x >>= f) s = f a s' := by
  show f (x s).1 (x s).2 = _
  rw [first]

/-- **The action takes no notice of the metrics**, and leaves the settings as they are. -/
structure Steady {α : Type} (a : Action α) : Prop where
  unmeasured : ∀ s metrics, ∃ metrics',
    a { s with metrics } = ((a s).1, { (a s).2 with metrics := metrics' })
  config : ∀ s, (a s).2.config = s.config

namespace Steady

variable {α β : Type}

/-- Nothing is done. -/
theorem nothing (a : α) : Steady (pure a) := ⟨fun _ metrics => ⟨metrics, rfl⟩, fun _ => rfl⟩

/-- One after the other. -/
theorem bind {x : Action α} {f : α → Action β} (first : Steady x) (rest : ∀ a, Steady (f a)) :
    Steady (x >>= f) := by
  refine ⟨fun s metrics => ?_, fun s => ?_⟩
  · obtain ⟨metrics₁, ran⟩ := first.unmeasured s metrics
    obtain ⟨metrics₂, ran'⟩ := (rest (x s).1).unmeasured (x s).2 metrics₁
    exact ⟨metrics₂, (bind_apply ran).trans ran'⟩
  · exact ((rest (x s).1).config (x s).2).trans (first.config s)

/-- Something is looked up that is not in the metrics. -/
theorem look {f : Service → Action β} (rest : ∀ s, Steady (f s))
    (same : ∀ s metrics, f { s with metrics } = f s) : Steady (get >>= f) := by
  refine ⟨fun s metrics => ?_, fun s => (rest s).config s⟩
  obtain ⟨metrics', ran⟩ := (rest s).unmeasured s metrics
  refine ⟨metrics', ?_⟩
  show f { s with metrics } { s with metrics } = _
  rw [same]
  exact ran

/-- Something is changed that has nothing to do with the metrics. -/
theorem change {f : Service → Service} (config : ∀ s, (f s).config = s.config)
    (same : ∀ s metrics, f { s with metrics } = { f s with metrics }) : Steady (modify f) := by
  refine ⟨fun s metrics => ⟨metrics, ?_⟩, config⟩
  show ((), f { s with metrics }) = _
  rw [same]
  rfl

/-- One for each of some things. -/
theorem forM {f : α → Action Unit} (each : ∀ a, Steady (f a)) (l : List α) : Steady (l.forM f) := by
  induction l with
  | nil => exact nothing ()
  | cons a rest ih => exact (each a).bind fun _ => ih

end Steady

/-! ## Basic actions -/

/-- Counting. -/
theorem steady_add (m : Metric) (n : Int) : Steady (add m n) :=
  ⟨fun _ metrics => ⟨metrics.add m n, rfl⟩, fun _ => rfl⟩

/-- Programs of tenants. -/
theorem steady_runFor {ε α : Type} (tenant : String) (p : Program ε α) : Steady (runFor tenant p) := by
  refine ⟨fun s metrics => ?_, fun s => rfl⟩
  obtain ⟨metrics', ran⟩ := World.run_metrics p
    { toBackend := s.registry.backend tenant, clock := s.clock, metrics := s.metrics } metrics
  refine ⟨metrics', ?_⟩
  unfold runFor
  dsimp only at ran ⊢
  rw [ran]

/-- Changes to the rooms of a tenant. -/
theorem steady_changeRooms {α : Type} (tenant : String) (f : Hub → α × Hub) :
    Steady (changeRooms tenant f) :=
  ⟨fun _ metrics => ⟨metrics, rfl⟩, fun _ => rfl⟩

/-- Loading a tenant. -/
theorem steady_tenantOf (name : String) : Steady (tenantOf name) := by
  refine ⟨fun s metrics => ?_, fun s => ?_⟩
  · unfold tenantOf
    dsimp only
    cases (s.registry.getOrLoad s.clock name).1 <;> exact ⟨_, rfl⟩
  · unfold tenantOf
    dsimp only
    cases (s.registry.getOrLoad s.clock name).1 <;> rfl

/-- Changes of a session. -/
theorem steady_changeSession (n : Nat) (f : Session → Session) : Steady (changeSession n f) := by
  refine .change (fun s => ?_) fun s metrics => ?_
  · cases s.sessions.get? n <;> rfl
  · cases s.sessions.get? n <;> rfl

/-- Sending. -/
theorem steady_send (n : Nat) (o : Outgoing) : Steady (send n o) := steady_changeSession n _

/-- Telling a client something. -/
theorem steady_tell (n : Nat) (e : ServerEvent) : Steady (tell n e) := steady_send n _

/-! ## Connections -/

/-- The session of a number. -/
theorem steady_open? (n : Nat) : Steady (open? n) :=
  .look (fun _ => .nothing _) fun _ _ => rfl

/-- Ending a session, but for its places in rooms. -/
theorem steady_finish (n : Nat) (session : Session) : Steady (finish n session) := by
  unfold finish
  refine (Steady.forM (fun _ => steady_changeRooms _ _) _).bind fun _ => ?_
  refine .look (fun s => ?_) fun _ _ => rfl
  refine (steady_runFor _ _).bind fun _ => ?_
  refine Steady.bind (.change ?_ ?_) fun _ => ?_
  · exact fun _ => rfl
  · exact fun _ _ => rfl
  refine (steady_add _ _).bind fun _ => (steady_send _ _).bind fun _ => steady_changeSession _ _

/-- Giving back places in rooms. -/
theorem steady_leaveRooms (n : Nat) (session : Session) : Steady (leaveRooms n session) :=
  (Steady.forM (fun _ => steady_changeRooms _ _) _).bind fun _ => steady_changeSession _ _

/-- Ending a session. -/
theorem steady_close (n : Nat) : Steady (close n) := by
  refine (steady_open? n).bind fun session => ?_
  cases session with
  | none => exact .nothing ()
  | some session => exact (steady_finish n session).bind fun _ => steady_leaveRooms n session

/-- Beginning a session. -/
theorem steady_begin (tenant : String) (holder : HolderId) : Steady (begin tenant holder) := by
  unfold begin
  refine .look (fun s => ?_) fun _ _ => rfl
  refine Steady.bind (.change ?_ ?_) fun _ => ?_
  · exact fun _ => rfl
  · exact fun _ _ => rfl
  refine (steady_add _ _).bind fun _ => (steady_add _ _).bind fun _ => ?_
  refine .look (fun s => ?_) fun _ _ => rfl
  split
  · exact steady_close _
  · exact .nothing ()

/-- **A shutdown.** -/
theorem steady_shutDown : Steady shutDown := by
  unfold shutDown
  refine Steady.bind (.change ?_ ?_) fun _ => ?_
  · exact fun _ => rfl
  · exact fun _ _ => rfl
  refine .look (fun s => ?_) fun _ _ => rfl
  exact (Steady.forM (fun _ => steady_finish _ _) _).bind fun _ =>
    Steady.forM (fun _ => steady_leaveRooms _ _) _

/-- Sending a snapshot. -/
theorem steady_tellSnapshot (n : Nat) (session : Session) (day : Day) :
    Steady (tellSnapshot n session day) := by
  refine (steady_runFor _ _).bind fun r => ?_
  cases r with
  | ok s => exact (steady_tell _ _).bind fun _ => .nothing _
  | error e => exact (steady_tell _ _).bind fun _ => .nothing _

/-- Joining the room of a day. -/
theorem steady_joinDay (n : Nat) (session : Session) (day : Day) :
    Steady (joinDay n session day) := by
  unfold joinDay
  split
  · exact (steady_tell _ _).bind fun _ => (steady_tellSnapshot _ _ _).bind fun _ => .nothing _
  · split
    · exact steady_tell _ _
    · refine (steady_changeRooms _ _).bind fun receiver => (steady_tell _ _).bind fun _ => ?_
      refine (steady_tellSnapshot _ _ _).bind fun sent => ?_
      split
      · exact steady_changeSession _ _
      · exact steady_changeRooms _ _

/-- Leaving the room of a day. -/
theorem steady_leaveDay (n : Nat) (session : Session) (day : Day) :
    Steady (leaveDay n session day) := by
  unfold leaveDay
  cases session.rooms.get? day with
  | none => exact .nothing ()
  | some receiver => exact (steady_changeRooms _ _).bind fun _ => steady_changeSession _ _

/-- Doing what a client asks for. -/
theorem steady_obey (n : Nat) (session : Session) (e : ClientEvent) : Steady (obey n session e) := by
  cases e with
  | joinDay day => exact steady_joinDay n session day
  | leaveDay day => exact steady_leaveDay n session day
  | holdSlot slot =>
    exact .look (fun _ => (steady_runFor _ _).bind fun _ => steady_tell _ _) fun _ _ => rfl
  | releaseHold slot =>
    exact .look (fun _ => (steady_runFor _ _).bind fun _ => steady_tell _ _) fun _ _ => rfl

/-- **What a client sends.** -/
theorem steady_receive (n : Nat) (incoming : Incoming) : Steady (receive n incoming) := by
  refine (steady_open? n).bind fun session => ?_
  cases session with
  | none => exact .nothing ()
  | some session =>
    cases incoming with
    | text s =>
      dsimp only
      cases ClientEvent.ofText? s with
      | none => exact steady_tell _ _
      | some e => exact steady_obey n session e
    | binary => exact steady_tell _ _
    | ping s => exact steady_send _ _
    | close => exact steady_close n

/-! ## Work in the background -/

/-- Forwarding what was read in a room. -/
theorem steady_forwardNotice (n : Nat) (session : Session) (day : Day) (notice : Notice) :
    Steady (forwardNotice n session day notice) := by
  cases notice with
  | event e => exact steady_tell _ _
  | lost k =>
    refine (steady_add _ _).bind fun _ => (steady_runFor _ _).bind fun r => ?_
    cases r with
    | ok s => exact steady_tell _ _
    | error e => exact .nothing ()

/-- Forwarding to all clients. -/
theorem steady_forward : Steady forward := by
  unfold forward
  refine .look (fun s => ?_) fun _ _ => rfl
  refine Steady.forM (fun (n, session) => Steady.forM (fun (day, receiver) => ?_) _) _
  exact (steady_changeRooms _ _).bind fun notices => Steady.forM (steady_forwardNotice n session day) _

/-- A pass of a tenant. -/
theorem steady_pass (key : String) (due : Nat) : Steady (pass key due) := by
  unfold pass
  refine (steady_runFor _ _).bind fun _ => Steady.bind ?_ fun _ => steady_forward
  refine .change (fun s => ?_) fun s metrics => ?_
  · cases s.registry.tenants.get? key <;> rfl
  · cases s.registry.tenants.get? key <;> rfl

/-- The passes that are due. -/
theorem steady_passesUntil (time fuel : Nat) : Steady (passesUntil time fuel) := by
  induction fuel with
  | zero => exact .nothing ()
  | succ fuel ih =>
    unfold passesUntil
    refine .look (fun s => ?_) fun _ _ => rfl
    split
    · cases s.nextDue? time with
      | none => exact .nothing ()
      | some due =>
        refine Steady.bind (.change ?_ ?_) fun _ => (steady_pass _ _).bind fun _ => ih
        · exact fun _ => rfl
        · exact fun _ _ => rfl
    · exact .nothing ()

/-- **Everything that can be done without time going on.** -/
theorem steady_settle : Steady settle :=
  .look (fun _ => (steady_passesUntil _ _).bind fun _ => steady_forward) fun _ _ => rfl

/-- **Time that goes by.** -/
theorem steady_sleep (milliseconds : Nat) : Steady (sleep milliseconds) :=
  .look (fun _ => (steady_passesUntil _ _).bind fun _ => .change (fun _ => rfl) fun _ _ => rfl)
    fun _ _ => rfl

end Service
end Holdfast
