import Holdfast.Rehearsal.Script
import Holdfast.Reservation.Availability
import Holdfast.Reservation.Commit
import Holdfast.Reservation.Connection
import Holdfast.Reservation.Expiry
import Holdfast.Reservation.World

/-!
# Running a script

A stage is a world with the hooks that are set and the names that a script gave to receivers and
watches. `Stage.run` takes the steps of a script one after the other. Each gives its own answer and
the answers of the steps that hooks ran meanwhile.
-/

namespace Holdfast.Rehearsal

open Reservation

/-- The answer to a step. -/
inductive Answer where
  | ok
  | malformed
  | unknownStep
  | acquired (r : Except Failure AcquireOutcome)
  | released (r : Except Failure (Option ReleaseOutcome))
  | committed (r : Except Failure CommitOutcome)
  | status (r : Except Failure SlotStatus)
  | rows (r : Except Failure (List HoldRow))
  | snapshot (r : Except Failure DaySnapshot)
  | sessionSlot (r : Except Failure (Option SlotId))
  | reaped (r : Except StoreError Nat)
  | policy (p : Policy)
  | catalogueSize (n : Nat)
  | booked (r : Except CatalogueError Unit)
  | slot (r : Option SlotRecord)
  | members (n : Nat)
  | left (b : Bool)
  | received (notices : Option (List Notice))
  | roomCount (n : Nat)
  | rooms (rooms members : Nat)
  | reached (n : Nat)
  | created (b : Bool)
  | value (v : Option String)
  | deleted (b : Bool)
  | remaining (ttl : Option Nat)
  | page (p : Page)
  | evicted (entries : List (String × String))
  | watched (keys : List (String × Bool))
  | executed (o : ExecOutcome)
  | hold (r : Except StoreError (Option HoldRecord))
  | index (r : Except StoreError (Option SlotId))
  | dump (live : List (String × String × Nat)) (size : Nat)
  | metrics (m : Metrics)

/-- A world in which a script runs. -/
structure Stage where
  world : World
  policy : Policy
  hooks : List Hook := []
  receivers : SortedMap String Receiver := .empty
  watches : SortedMap String Watch := .empty
  /-- The answers of the steps that hooks ran during the current step, the latest first. -/
  hooked : List Answer := []

/-! ## Hooks -/

/-- The point and the key of an effect that hooks can interfere with. -/
def pointOf? : Effect → Option (Point × String)
  | .store (.tryCreate key _ _) => some (.tryCreate, key)
  | .store (.read key) => some (.read, key)
  | .store (.refresh key _ _) => some (.refresh, key)
  | .store (.delete key) => some (.delete, key)
  | .store (.remaining key) => some (.remaining, key)
  | .store (.scan start _ _) => some (.scan, start)
  | .store (.watch keys) => some (.watch, keys.headD "")
  | .store (.exec _ _) => some (.exec, "")
  | .store .evict => some (.evict, "")
  | .slot id => some (.slot, SlotId.text id)
  | .slotsOn day => some (.slotsOn, day.text)
  | .book id => some (.book, SlotId.text id)
  | .admission => none
  | .announce _ => none
  | .count _ _ => none

/-- The hook that fires at a point, and the hooks that are left. -/
def fire (point : Point) (key : String) : List Hook → Option Interference × List Hook
  | [] => (none, [])
  | h :: rest =>
    if h.point = point ∧ h.key.all (· = key) then
      if h.skip = 0 then
        (some h.interference,
          if h.times ≤ 1 then rest else { h with times := h.times - 1 } :: rest)
      else
        let (found, rest) := fire point key rest
        (found, { h with skip := h.skip - 1 } :: rest)
    else
      let (found, rest) := fire point key rest
      (found, h :: rest)

/-- A catalogue's error by its name, or that it is out of reach. -/
def catalogueError (slot : SlotId) (reason : String) : CatalogueError :=
  if reason = "not_found" then .unknown slot
  else if reason = "already_booked" then .alreadyBooked slot
  else .unavailable reason

/-- The reply to an effect that fails. -/
def failing (reason : String) : (e : Effect) → Option e.Reply
  | .store _ => some (.error reason)
  | .slot id => some (.error (catalogueError id reason))
  | .slotsOn _ => some (.error (catalogueError 0 reason))
  | .book id => some (.error (catalogueError id reason))
  | .admission => none
  | .announce _ => none
  | .count _ _ => none

/-- The reply to a transaction that is aborted. -/
def aborting : (e : Effect) → Option e.Reply
  | .store (.exec _ _) => some (.ok .aborted)
  | _ => none

namespace Stage

/-- Carries out an effect with nothing interfering. -/
def perform (e : Effect) : StateM Stage e.Reply := fun s =>
  let (reply, world) := s.world.perform e
  (reply, { s with world })

/-- Carries out an effect, with the interference of at most one hook. -/
def performHooked (nested : List Step → StateM Stage Unit) (e : Effect) : StateM Stage e.Reply := do
  match pointOf? e with
  | none => perform e
  | some (point, key) =>
    let (found, hooks) := fire point key (← get).hooks
    modify ({ · with hooks })
    match found with
    | none => perform e
    | some (.fail reason) =>
      match failing reason e with
      | some reply => return reply
      | none => perform e
    | some .abort =>
      match aborting e with
      | some reply => return reply
      | none => perform e
    | some (.run steps false) =>
      nested steps
      perform e
    | some (.run steps true) =>
      let reply ← perform e
      nested steps
      return reply

/-! ## Steps -/

/-- What is left to read by a receiver. -/
def unread (s : Stage) (r : Receiver) : List Notice := (s.world.rooms.unread r).notices

/-- Changes the rooms. -/
def changeRooms {α : Type} (f : Hub → α × Hub) : StateM Stage α := fun s =>
  let (a, rooms) := f s.world.rooms
  (a, { s with world := { s.world with rooms } })

/-- Asks the store directly, past all hooks. -/
def askStore (r : Store.Request) : StateM Stage r.Answer := fun s =>
  let (a, store) := s.world.store.answer s.world.clock r
  (a, { s with world := { s.world with store } })

/-- The live entries with the time that each has left, and the number of all entries. -/
def dump (s : Stage) : Answer :=
  .dump ((s.world.store.liveEntries s.world.clock).map fun (key, e) =>
    (key, e.value, e.deadline - s.world.clock)) s.world.store.size

/-- Announces an event so many times, and says how many members the last time reached. -/
def emit (e : RoomEvent) : Nat → StateM Stage Nat
  | 0 => return 0
  | 1 => changeRooms (·.emit e)
  | n + 1 => do
    let _ ← changeRooms (·.emit e)
    emit e n

/-- Joins a room under a name. A receiver that had the name is given back afterwards. -/
def join (name : String) (day : Day) : StateM Stage Nat := do
  let receiver ← changeRooms (·.join day)
  match (← get).receivers.get? name with
  | some old => changeRooms fun h => ((), h.leave old)
  | none => pure ()
  modify fun s => { s with receivers := s.receivers.insert name receiver }
  return (← get).world.rooms.members day

/-- Takes a step. Steps that hooks run are left to `nested`. -/
def step (nested : List Step → StateM Stage Unit) (t : Step) : StateM Stage Answer := do
  let run {ε α : Type} (p : Program ε α) : StateM Stage (Except ε α) :=
    p.interpret (performHooked nested)
  let policy := (← get).policy
  match t with
  | .acquire slot claimant none => return .acquired (← run (acquire policy slot claimant))
  | .acquire slot claimant (some ttl) => return .acquired (← run (acquireFor policy slot claimant ttl))
  | .release slot claimant => return .released ((← run (release policy slot claimant)).map some)
  | .commit slot claimant => return .committed (← run (commit policy slot claimant))
  | .status slot => return .status (← run (status slot))
  | .listHolds => return .rows (← run listHolds)
  | .snapshot day => return .snapshot (← run (snapshot day))
  | .acquireForSession slot holder session =>
    return .acquired (← run (acquireForSession policy slot holder session))
  | .sessionSlot session => return .sessionSlot (← run (sessionSlot session))
  | .endSession holder session => return .released (← run (endSession policy holder session))
  | .reap => return .reaped (← run reap)
  | .policy => return .policy policy
  | .advance milliseconds =>
    modify fun s => { s with world := { s.world with clock := s.world.clock + milliseconds } }
    return .ok
  | .insertSlot none => return .malformed
  | .insertSlot (some record) =>
    modify fun s =>
      { s with world := { s.world with catalogue := s.world.catalogue.insert record } }
    return .catalogueSize (← get).world.catalogue.size
  | .markBooked slot => return .booked (← perform (.book slot))
  | .getSlot slot => return .slot ((← get).world.catalogue.get? slot)
  | .setAdmission days =>
    let admission : Admission := match days with
      | some ds => .days (DaySet.ofDays ds)
      | none => .closed
    modify fun s => { s with world := { s.world with admission } }
    return .ok
  | .hook point key skip times interference =>
    modify fun s => { s with hooks := s.hooks ++ [{ point, key, skip, times, interference }] }
    return .ok
  | .unhook =>
    modify ({ · with hooks := [] })
    return .ok
  | .join name day => return .members (← join name day)
  | .leave name =>
    match (← get).receivers.get? name with
    | none => return .left false
    | some receiver =>
      changeRooms fun h => ((), h.leave receiver)
      modify fun s => { s with receivers := s.receivers.erase name }
      return .left true
  | .receive name =>
    match (← get).receivers.get? name with
    | none => return .received none
    | some receiver => return .received (some (← changeRooms (·.drain receiver)))
  | .prune day =>
    changeRooms fun h => ((), h.prune day)
    return .roomCount (← get).world.rooms.roomCount
  | .rooms day =>
    let hub := (← get).world.rooms
    return .rooms hub.roomCount (hub.members day)
  | .emit none _ => return .malformed
  | .emit (some event) times => return .reached (← emit event times)
  | .tryCreate key value ttl => return .created (← askStore (.tryCreate key value ttl))
  | .read key => return .value (← askStore (.read key))
  | .refresh key value ttl =>
    let _ ← askStore (.refresh key value ttl)
    return .ok
  | .delete key => return .deleted (← askStore (.delete key))
  | .remaining key => return .remaining (← askStore (.remaining key))
  | .scan start cursor count => return .page (← askStore (.scan start cursor count))
  | .evict => return .evicted (← askStore .evict)
  | .watch name keys merge =>
    let w : Watch ← askStore (.watch keys)
    let watches := (← get).watches
    let saved := match if merge then watches.get? name else none with
      | some old => old.merge w
      | none => w
    modify fun s => { s with watches := watches.insert name saved }
    return .watched (w.versions.map fun (key, version) => (key, version.isSome))
  | .exec name writes =>
    let w := ((← get).watches.get? name).getD {}
    return .executed (← askStore (.exec w writes))
  | .readHold slot =>
    let key := Key.hold slot
    match ((← askStore (.read key)) : Option String) with
    | some text => return .hold ((HoldRecord.stored key text).map some)
    | none => return .hold (.ok none)
  | .readIndex key =>
    match ((← askStore (.read key)) : Option String) with
    | some text => return .index ((SlotId.stored key text).map some)
    | none => return .index (.ok none)
  | .dump => return (← get).dump
  | .metrics => return .metrics (← get).world.metrics
  | .unknown => return .unknownStep

/-- Takes the steps that a hook runs, with hooks firing inside each other at most `depth` deep. -/
def nested : Nat → List Step → StateM Stage Unit
  | _, [] => return ()
  | 0, _ => return ()
  | depth + 1, t :: rest => do
    let answer ← step (nested depth) t
    modify fun s => { s with hooked := answer :: s.hooked }
    nested (depth + 1) rest

/-- Takes a step, and gives its answer with those of the steps that hooks ran meanwhile. -/
def take (depth : Nat) (t : Step) : StateM Stage (Answer × List Answer) := do
  modify ({ · with hooked := [] })
  let answer ← step (nested depth) t
  return (answer, (← get).hooked.reverse)

/-- Takes all steps. Hooks fire inside each other no deeper than all of them can fire. -/
def run (s : Stage) (steps : List Step) : List (Answer × List Answer) × Stage :=
  steps.mapM (take (firingsOf steps)) s

end Stage
end Holdfast.Rehearsal
