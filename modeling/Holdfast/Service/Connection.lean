import Holdfast.Reservation.Availability
import Holdfast.Reservation.Connection
import Holdfast.Service.Basic

/-!
# Live connections

A connection belongs to a holder of a tenant. Its client joins the rooms of days, of which it is sent
every event after a snapshot, and holds and releases slots. When it ends, what was held through it is
released.
-/

namespace Holdfast.Service

open Reservation Socket

/-- How many rooms a connection may be in. -/
def maxRooms : Nat := 31

/-- Changes a session. -/
def changeSession (n : Nat) (f : Session → Session) : Action Unit := modify fun s =>
  match s.sessions.get? n with
  | some session => { s with sessions := s.sessions.insert n (f session) }
  | none => s

/-- Sends something to a client. -/
def send (n : Nat) (o : Outgoing) : Action Unit :=
  changeSession n fun session => { session with outbox := session.outbox ++ [o] }

/-- Tells a client something. -/
def tell (n : Nat) (e : ServerEvent) : Action Unit := send n (.event e)

/-! ## Beginning and end -/

/-- Ends a session but for its places in rooms: empty rooms are pruned, and what the session holds is
released. -/
def finish (n : Nat) (session : Session) : Action Unit := do
  session.rooms.toList.forM fun (day, _) =>
    changeRooms session.tenant fun h => ((), h.prune day)
  let policy := (← get).config.policy
  let _ ← runFor session.tenant (endSession policy session.holder session.id)
  modify fun s => { s with permits := s.permits + 1 }
  add .sessionsActive (-1)
  send n .closed
  changeSession n fun session => { session with isOpen := false }

/-- Gives back a session's places in rooms. -/
def leaveRooms (n : Nat) (session : Session) : Action Unit := do
  session.rooms.toList.forM fun (_, receiver) =>
    changeRooms session.tenant fun h => ((), h.leave receiver)
  changeSession n fun session => { session with rooms := .empty }

/-- The session of a number, while it is open. -/
def open? (n : Nat) : Action (Option Session) := do
  return ((← get).sessions.get? n).filter (·.isOpen)

/-- Ends a session. -/
def close (n : Nat) : Action Unit := do
  if let some session ← open? n then
    finish n session
    leaveRooms n session

/-- The identifier of the connection of a number. They count up from the middle of the range. -/
def sessionId (n : Nat) : SessionId := BitVec.ofNat 128 (Nat.pow 2 127 + n)

/-- Begins a session, for which a permit was taken. After a shutdown it ends at once. -/
def begin (tenant : String) (holder : HolderId) : Action Unit := do
  let n := (← get).opened
  modify fun s =>
    { s with
      opened := n + 1
      sessions := s.sessions.insert n { id := sessionId n, tenant, holder } }
  add .sessionsTotal 1
  add .sessionsActive 1
  if (← get).isShutDown then close n

/-- Ends all sessions. Only when each of them has released what it held, they leave their rooms, so
none is told of the others' releases. -/
def shutDown : Action Unit := do
  modify ({ · with isShutDown := true })
  let sessions := (← get).sessions.toList.filter (·.2.isOpen)
  sessions.forM fun (n, session) => finish n session
  sessions.forM fun (n, session) => leaveRooms n session

/-! ## Wishes of a client -/

/-- Sends a snapshot of a day, or why there is none, and says whether there is one. -/
def tellSnapshot (n : Nat) (session : Session) (day : Day) : Action Bool := do
  match ← runFor session.tenant (snapshot day) with
  | .ok s =>
    tell n (.snapshot s)
    return true
  | .error e =>
    tell n (.error e.code)
    return false

/-- Joins the room of a day before the snapshot is taken, so that nothing is missed in between. A
client that is in the room already just gets another snapshot. -/
def joinDay (n : Nat) (session : Session) (day : Day) : Action Unit := do
  if (session.rooms.get? day).isSome then
    tell n (.joinedDay day)
    let _ ← tellSnapshot n session day
  else if maxRooms ≤ session.rooms.size then tell n (.error "too_many_rooms")
  else
    let receiver ← changeRooms session.tenant (·.join day)
    tell n (.joinedDay day)
    if ← tellSnapshot n session day then
      changeSession n fun session => { session with rooms := session.rooms.insert day receiver }
    else changeRooms session.tenant fun h => ((), h.leave receiver)

/-- Leaves the room of a day. -/
def leaveDay (n : Nat) (session : Session) (day : Day) : Action Unit := do
  if let some receiver := session.rooms.get? day then
    changeRooms session.tenant fun h => ((), h.leave receiver)
    changeSession n fun session => { session with rooms := session.rooms.erase day }

/-- Does what a client asks for. A release is the holder's own, through whichever connection the slot
was held. -/
def obey (n : Nat) (session : Session) : ClientEvent → Action Unit
  | .joinDay day => joinDay n session day
  | .leaveDay day => leaveDay n session day
  | .holdSlot slot => do
    let policy := (← get).config.policy
    tell n (.holdAck slot
      (← runFor session.tenant (acquireForSession policy slot session.holder session.id)))
  | .releaseHold slot => do
    let policy := (← get).config.policy
    tell n (.releaseAck slot
      (← runFor session.tenant (release policy slot { holder := session.holder })))

/-- What a client sends. -/
inductive Incoming where
  | text (s : String)
  | binary
  | ping (s : String)
  | close

/-- Takes in what a client sent. -/
def receive (n : Nat) (incoming : Incoming) : Action Unit := do
  if let some session ← open? n then
    match incoming with
    | .text s =>
      match ClientEvent.ofText? s with
      | some e => obey n session e
      | none => tell n (.error "bad_request")
    | .binary => tell n (.error "bad_request")
    | .ping s => send n (.pong s)
    | .close => close n

/-! ## Forwarding -/

/-- Forwards what was read in a room. A client that fell behind gets a snapshot in place of what it
missed, if one can be had. -/
def forwardNotice (n : Nat) (session : Session) (day : Day) : Notice → Action Unit
  | .event e => tell n (.change e)
  | .lost _ => do
    add .roomLagged 1
    match ← runFor session.tenant (snapshot day) with
    | .ok s => tell n (.snapshot s)
    | .error _ => return ()

/-- Forwards everything that was said in a room. -/
def forwardRoom (n : Nat) (session : Session) (day : Day) (receiver : Receiver) : Action Unit := do
  (← changeRooms session.tenant (·.drain receiver)).forM (forwardNotice n session day)

/-- Forwards what was said in all rooms to all clients. -/
def forward : Action Unit := do
  ((← get).sessions.toList.filter (·.2.isOpen)).forM fun (n, session) =>
    session.rooms.toList.forM fun (day, receiver) => forwardRoom n session day receiver

end Holdfast.Service
