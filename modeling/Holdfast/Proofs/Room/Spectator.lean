import Holdfast.Proofs.Interleaving.Run
import Holdfast.Proofs.Room.View

/-!
# Spectators

Whoever joins the room of a day is sent a snapshot of the day and then what is said in the room, as
fast as it is read. Who fell behind is sent a snapshot in place of what was lost. A step of this is
`World.attend`. Between any two steps there may be calls: after the joining and before the snapshot,
and after a loss is noticed and before the snapshot that makes up for it, too.

A `Scene` is a world with its spectators. In a turn of it a call runs from its beginning to its end,
or time passes, or a spectator comes, is attended to, or leaves.
-/

namespace Holdfast.Reservation

open Socket

/-- What is next for a spectator. -/
inductive Stage where
  /-- The snapshot of the day that it joined. -/
  | joining
  /-- What was said in the room. -/
  | following
  /-- A snapshot in place of what was lost. -/
  | resuming
  /-- Nothing any more. -/
  | gone
  deriving DecidableEq

/-- Someone who joined the room of a day, with the frames that it was sent. -/
structure Spectator where
  receiver : Receiver
  stage : Stage := .joining
  frames : List ServerEvent := []

namespace Spectator

/-- The day whose room was joined. -/
def day (s : Spectator) : Day := s.receiver.day

/-- What the spectator makes of the frames that it was sent. -/
def view (s : Spectator) : View := .ofFrames s.frames

/-- The spectator after one more frame. -/
def send (s : Spectator) (frame : ServerEvent) : Spectator := { s with frames := s.frames ++ [frame] }

/-- The spectator after a snapshot, with what was said in the room to follow. -/
def renew (s : Spectator) (snapshot : DaySnapshot) : Spectator :=
  { s.send (.snapshot snapshot) with stage := .following }

end Spectator

/-- One step of what is sent to a spectator. -/
def World.attend (w : World) (s : Spectator) : World × Spectator :=
  match s.stage with
  | .joining =>
    match w.run (snapshot s.day) with
    | (.ok shot, w) => (w, s.renew shot)
    | (.error e, w) =>
      ({ w with rooms := w.rooms.leave s.receiver }, { s.send (.error e.code) with stage := .gone })
  | .following =>
    match w.rooms.receive s.receiver with
    | (none, rooms) => ({ w with rooms }, s)
    | (some (.event e), rooms) => ({ w with rooms }, s.send (.change e))
    | (some (.lost _), rooms) =>
      ({ w with rooms, metrics := w.metrics.add .roomLagged 1 }, { s with stage := .resuming })
  | .resuming =>
    match w.run (snapshot s.day) with
    | (.ok shot, w) => (w, s.renew shot)
    | (.error _, w) => (w, { s with stage := .following })
  | .gone => (w, s)

section attend

variable {w w' : World} {s : Spectator}

/-- A snapshot is sent that is due. -/
theorem World.attend_due (due : s.stage = .joining ∨ s.stage = .resuming) {shot : DaySnapshot}
    (snapped : w.run (snapshot s.day) = (.ok shot, w')) : w.attend s = (w', s.renew shot) := by
  unfold attend
  rcases due with stage | stage <;> simp only [stage, snapped]

/-- Who cannot be sent the first snapshot has to leave. -/
theorem World.attend_refused (due : s.stage = .joining) {e : Failure}
    (failed : w.run (snapshot s.day) = (.error e, w')) :
    w.attend s =
      ({ w' with rooms := w'.rooms.leave s.receiver },
        { s.send (.error e.code) with stage := .gone }) := by
  unfold attend
  simp only [due, failed]

/-- Where no snapshot can be had in place of what was lost, the spectator goes on without. -/
theorem World.attend_failed (due : s.stage = .resuming) {e : Failure}
    (failed : w.run (snapshot s.day) = (.error e, w')) :
    w.attend s = (w', { s with stage := .following }) := by
  unfold attend
  simp only [due, failed]

/-- What was said in the room is read. -/
theorem World.attend_following (stage : s.stage = .following) :
    w.attend s = match w.rooms.receive s.receiver with
      | (none, rooms) => ({ w with rooms }, s)
      | (some (.event e), rooms) => ({ w with rooms }, s.send (.change e))
      | (some (.lost _), rooms) =>
        ({ w with rooms, metrics := w.metrics.add .roomLagged 1 }, { s with stage := .resuming }) := by
  unfold attend
  simp only [stage]

/-- Who is gone is sent nothing. -/
theorem World.attend_gone (stage : s.stage = .gone) : w.attend s = (w, s) := by
  unfold attend
  simp only [stage]

end attend

/-- A world with its spectators; a spectator keeps its place when it leaves. -/
structure Scene where
  world : World
  spectators : List Spectator := []

/-- What happens next. -/
inductive Turn where
  /-- A call runs from its beginning to its end. -/
  | call (c : Call)
  | wait (milliseconds : Nat)
  | regulate (a : Admission)
  | join (day : Day)
  /-- A spectator is attended to. -/
  | attend (i : Nat)
  | leave (i : Nat)
  /-- A room is taken away if nobody is in it. -/
  | prune (day : Day)

/-- Do spectators come, go on or leave, and nothing else goes on? -/
def Turn.isAside : Turn → Bool
  | .join _ | .attend _ | .leave _ | .prune _ => true
  | .call _ | .wait _ | .regulate _ => false

namespace Scene

/-- One turn. -/
def next (policy : Policy) (σ : Scene) : Turn → Scene
  | .call c => { σ with world := (σ.world.run (c.program policy)).2 }
  | .wait milliseconds => { σ with world := { σ.world with clock := σ.world.clock + milliseconds } }
  | .regulate a => { σ with world := { σ.world with admission := a } }
  | .join day =>
    let (receiver, rooms) := σ.world.rooms.join day
    { world := { σ.world with rooms }
      spectators := σ.spectators ++ [{ receiver, frames := [.joinedDay day] }] }
  | .attend i =>
    match σ.spectators[i]? with
    | some s =>
      let (world, s) := σ.world.attend s
      { world, spectators := σ.spectators.set i s }
    | none => σ
  | .leave i =>
    match σ.spectators[i]? with
    | some s =>
      { world := { σ.world with rooms := σ.world.rooms.leave s.receiver }
        spectators := σ.spectators.set i { s with stage := .gone } }
    | none => σ
  | .prune day => { σ with world := { σ.world with rooms := σ.world.rooms.prune day } }

/-- A spectator that there is is attended to. -/
theorem next_attend {policy : Policy} {σ : Scene} {i : Nat} {s : Spectator}
    (there : σ.spectators[i]? = some s) :
    σ.next policy (.attend i) =
      { world := (σ.world.attend s).1, spectators := σ.spectators.set i (σ.world.attend s).2 } := by
  unfold next
  simp only [there]

/-- A spectator that there is leaves. -/
theorem next_leave {policy : Policy} {σ : Scene} {i : Nat} {s : Spectator}
    (there : σ.spectators[i]? = some s) :
    σ.next policy (.leave i) =
      { world := { σ.world with rooms := σ.world.rooms.leave s.receiver }
        spectators := σ.spectators.set i { s with stage := .gone } } := by
  unfold next
  simp only [there]

/-- Nothing happens to a spectator that there is not. -/
theorem next_missing {policy : Policy} {σ : Scene} {i : Nat} (missing : σ.spectators[i]? = none) :
    σ.next policy (.attend i) = σ ∧ σ.next policy (.leave i) = σ := by
  unfold next
  simp only [missing, and_self]

/-- Some turns, one after the other. -/
def after (policy : Policy) (σ : Scene) (turns : List Turn) : Scene := turns.foldl (next policy) σ

/-- First some turns and then some more. -/
theorem after_append (policy : Policy) (σ : Scene) (turns turns' : List Turn) :
    σ.after policy (turns ++ turns') = (σ.after policy turns).after policy turns' :=
  List.foldl_append

end Scene

/-- The spectator has been sent all that there is to send. -/
def Spectator.UpToDate (w : World) (s : Spectator) : Prop :=
  s.stage = .following ∧ w.rooms.unread s.receiver = {}

end Holdfast.Reservation
