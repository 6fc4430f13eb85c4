import Holdfast.Service.Handle
import Holdfast.Service.Schedule

/-!
# Traffic by a script

A script of requests to the service and of clients with live connections, which it knows by name. After
each step everything happens that can happen without time going on, and the script sees what each
client was sent: the replies to it, and what was said in the rooms that it is in.
-/

namespace Holdfast.Rehearsal.Traffic

open Http Reservation Service Socket

/-- A step of the script. -/
inductive Step where
  | http (r : Except Malformed Request)
  /-- Makes all the requests and counts the statuses. -/
  | httpEach (rs : List (Except Malformed Request))
  /-- Opens a connection for a client. One that the client has is cut first. -/
  | connect (client : String) (r : Except Malformed Request)
  | send (client : String) (incoming : Incoming)
  /-- Cuts a client's connection. -/
  | drop (client : String)
  /-- Asks for the rooms of several days. -/
  | joinDays (client : String) (days : List Day)
  | sleep (milliseconds : Nat)
  | storePut (tenant key value : String) (ttl : Nat)
  | rooms (tenant : String)
  | tenants
  | sessions
  | shutDown
  | stopPasses
  | metrics
  | unknown

/-- The answer to a step. -/
inductive Answer where
  | ok
  | response (r : Response)
  | malformed (m : Malformed)
  | tally (statuses : List (Nat × Nat))
  | opened
  | sent (b : Bool)
  | dropped (b : Bool)
  | noTenant (e : TenantError)
  | rooms (n : Nat)
  | tenants (n : Nat)
  | sessions (free max : Nat)
  | metrics (m : Metrics)
  | unknownStep

/-- What a client was sent during a step. -/
structure Delivery where
  client : String
  replies : List Outgoing
  /-- What was said in rooms, by day. -/
  events : List Outgoing

/-! ## Deliveries -/

/-- The day that a frame from a room is about, as text. -/
def dayText : Outgoing → String
  | .event (.change e) => e.day.text
  | .event (.snapshot s) => s.day.text
  | _ => ""

/-- Is this what comes before the snapshot for someone who joins? -/
def announcesSnapshot : Outgoing → Bool
  | .event (.joinedDay _) => true
  | _ => false

/-- Was this said in a room? A snapshot right after a join is a reply. -/
def isFromRoom (afterJoin : Bool) : Outgoing → Bool
  | .event (.change _) => true
  | .event (.snapshot _) => !afterJoin
  | _ => false

/-- Parts what was sent into replies and what was said in rooms. -/
def part (afterJoin : Bool) : List Outgoing → List Outgoing × List Outgoing
  | [] => ([], [])
  | o :: rest =>
    let (replies, events) := part (announcesSnapshot o) rest
    if isFromRoom afterJoin o then (replies, o :: events) else (o :: replies, events)

/-- What a client was sent. -/
def Delivery.of (client : String) (outbox : List Outgoing) : Delivery :=
  let (replies, events) := part false outbox
  { client, replies, events := events.mergeSort fun a b => dayText a ≤ dayText b }

/-! ## Running a script -/

/-- The service, and the connections of the clients. -/
structure Stage where
  service : Service
  clients : SortedMap String Nat := .empty

namespace Stage

/-- Lets the service do something. -/
def serve {α : Type} (a : Action α) : StateM Stage α := fun s =>
  let (r, service) := a.run s.service
  (r, { s with service })

/-- Cuts a client's connection, and says whether there was one. -/
def cut (client : String) : StateM Stage Bool := do
  match (← get).clients.get? client with
  | none => return false
  | some n =>
    serve (close n)
    serve settle
    modify fun s =>
      { s with
        clients := s.clients.erase client
        service := { s.service with sessions := s.service.sessions.erase n } }
    return true

/-- Sends something for a client, and says whether it has a connection. -/
def send (client : String) (incoming : Incoming) : StateM Stage Bool := do
  match (← get).clients.get? client with
  | none => return false
  | some n =>
    serve (receive n incoming)
    return true

/-- Asks for the room of a day, on a connection that is still open. -/
def join (n : Nat) (day : Day) : Action Unit := do
  match ← open? n with
  | some session => obey n session (.joinDay day)
  | none => return ()

/-- One more of a status. -/
def tally (status : Nat) : List (Nat × Nat) → List (Nat × Nat)
  | [] => [(status, 1)]
  | (s, n) :: rest => if s = status then (s, n + 1) :: rest else (s, n) :: tally status rest

/-- Makes requests and counts the statuses. -/
def each (counts : List (Nat × Nat)) :
    List (Except Malformed Request) → StateM Stage (List (Nat × Nat))
  | [] => return counts
  | .error _ :: rest => each counts rest
  | .ok r :: rest => do
    let response ← serve (handle r)
    serve settle
    each (tally response.status counts) rest

/-- Does something for a tenant. -/
def forTenant (name : String) (f : String → StateM Stage Answer) : StateM Stage Answer := do
  match ← serve (tenantOf name) with
  | .ok key => f key
  | .error e => return .noTenant e

/-- Takes a step. -/
def step : Step → StateM Stage Answer
  | .http (.error m) => return .malformed m
  | .http (.ok r) => return .response (← serve (handle r))
  | .httpEach rs => return .tally (← each [] rs)
  | .connect client r => do
    let _ ← cut client
    match r with
    | .error m => return .malformed m
    | .ok r =>
      let n := (← get).service.opened
      let response ← serve (handle r)
      if response.status = 101 then
        modify fun s => { s with clients := s.clients.insert client n }
        return .opened
      else return .response response
  | .send client incoming => return .sent (← send client incoming)
  | .drop client => return .dropped (← cut client)
  | .joinDays client days => do
    match (← get).clients.get? client with
    | none => return .ok
    | some n =>
      days.forM fun day => serve (join n day)
      return .ok
  | .sleep milliseconds => do
    serve (sleep milliseconds)
    return .ok
  | .storePut tenant key value ttl => forTenant tenant fun t => do
    serve <| modify fun s =>
      let backend := s.registry.backend t
      let store := backend.store.put s.clock key value ttl
      { s with registry := s.registry.setBackend t { backend with store } }
    return .ok
  | .rooms tenant => forTenant tenant fun t => do
    return .rooms ((← get).service.registry.backend t).rooms.roomCount
  | .tenants => return .tenants (← get).service.registry.size
  | .sessions => do
    let s := (← get).service
    return .sessions s.permits s.config.maxConnections
  | .shutDown => do
    serve shutDown
    return .ok
  | .stopPasses => do
    serve (modify ({ · with isReaping := false }))
    return .ok
  | .metrics => return .metrics (← get).service.metrics
  | .unknown => return .unknownStep

/-- Collects what a client was sent. -/
def collect (client : String) (n : Nat) : StateM Stage (List Delivery) := do
  match (← get).service.sessions.get? n with
  | none => return []
  | some session =>
    serve (changeSession n fun session => { session with outbox := [] })
    if !session.isOpen then
      modify fun s =>
        { s with
          clients := s.clients.erase client
          service := { s.service with sessions := s.service.sessions.erase n } }
    return if session.outbox.isEmpty then [] else [.of client session.outbox]

/-- Takes a step, and gives its answer with what the clients were sent. -/
def take (t : Step) : StateM Stage (Answer × List Delivery) := do
  let answer ← step t
  serve settle
  let deliveries ← (← get).clients.toList.mapM fun (client, n) => collect client n
  return (answer, deliveries.flatten)

/-- Takes all steps. -/
def run (s : Stage) (steps : List Step) : List (Answer × List Delivery) := (steps.mapM take s).1

end Stage
end Holdfast.Rehearsal.Traffic
