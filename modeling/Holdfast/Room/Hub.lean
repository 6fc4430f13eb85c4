import Holdfast.Room.Event

/-!
# Rooms

A room is the audience of a day. Whoever joins gets every later event of the day, in order; who does
not read keeps the latest events up to a capacity, and is told how many older ones were lost.

A room appears when it is joined. Its members can leave without a word, so an empty room stays until
it is pruned, by hand or by an event that reaches nobody.
-/

namespace Holdfast

/-- What a member reads: an event, or how many were lost before the next one. -/
inductive Notice where
  | lost (n : Nat)
  | event (e : RoomEvent)
  deriving DecidableEq

/-- What a member has not read yet: how many events were lost, then those that are left. -/
structure Mailbox where
  lost : Nat := 0
  waiting : List RoomEvent := []
  deriving DecidableEq

namespace Mailbox

/-- How many unread events a member keeps. -/
def capacity : Nat := 256

/-- One more event. -/
def post (m : Mailbox) (e : RoomEvent) : Mailbox :=
  if m.waiting.length < capacity then { m with waiting := m.waiting ++ [e] }
  else { lost := m.lost + 1, waiting := m.waiting.drop 1 ++ [e] }

/-- What is read first, and what is left then. -/
def take? (m : Mailbox) : Option (Notice × Mailbox) :=
  if m.lost ≠ 0 then some (.lost m.lost, { m with lost := 0 })
  else
    match m.waiting with
    | [] => none
    | e :: rest => some (.event e, { m with waiting := rest })

/-- All that is left to read, in order. -/
def notices (m : Mailbox) : List Notice :=
  (if m.lost ≠ 0 then [.lost m.lost] else []) ++ m.waiting.map .event

/-- Reading one by one gives all the notices. -/
theorem notices_eq (m : Mailbox) :
    m.notices = match m.take? with
      | none => []
      | some (notice, rest) => notice :: rest.notices := by
  obtain ⟨lost, waiting⟩ := m
  by_cases h : lost = 0
  · subst h
    cases waiting <;> simp [notices, take?]
  · simp [notices, take?, h]

end Mailbox

/-- A member of a room. -/
structure Member where
  id : Nat
  mailbox : Mailbox := {}
  deriving DecidableEq

/-- What a member holds to read what was said in a room. -/
structure Receiver where
  day : Day
  id : Nat
  deriving DecidableEq

/-- The rooms, and the number of receivers given out so far. -/
structure Hub where
  rooms : SortedMap Day (List Member) := .empty
  joined : Nat := 0

namespace Hub

instance : Inhabited Hub := ⟨{}⟩

/-- The members of a day's room. -/
def membersOf (h : Hub) (d : Day) : List Member := (h.rooms.get? d).getD []

/-- How many members a day's room has. -/
def members (h : Hub) (d : Day) : Nat := (h.membersOf d).length

/-- How many rooms there are. -/
def roomCount (h : Hub) : Nat := h.rooms.size

/-- Joins a day's room, which opens if there is none. -/
def join (h : Hub) (d : Day) : Receiver × Hub :=
  (⟨d, h.joined⟩,
    { rooms := h.rooms.insert d (h.membersOf d ++ [{ id := h.joined }]), joined := h.joined + 1 })

/-- The rooms with a change to the members of one that exists. -/
def update (h : Hub) (d : Day) (f : List Member → List Member) : Hub :=
  match h.rooms.get? d with
  | some ms => { h with rooms := h.rooms.insert d (f ms) }
  | none => h

/-- Gives a receiver back. -/
def leave (h : Hub) (r : Receiver) : Hub := h.update r.day (·.filter (·.id ≠ r.id))

/-- Takes a room away if nobody is in it. -/
def prune (h : Hub) (d : Day) : Hub :=
  if h.membersOf d = [] then { h with rooms := h.rooms.erase d } else h

/-- Tells the members of a day's room what happened, and says how many it reached. -/
def emit (h : Hub) (e : RoomEvent) : Nat × Hub :=
  if h.membersOf e.day = [] then (0, h.prune e.day)
  else
    (h.members e.day,
      h.update e.day (·.map fun m => { m with mailbox := m.mailbox.post e }))

/-- What a receiver has not read yet. -/
def unread (h : Hub) (r : Receiver) : Mailbox :=
  (((h.membersOf r.day).find? (·.id = r.id)).map (·.mailbox)).getD {}

/-- The rooms with another mailbox for a receiver. -/
def setMailbox (h : Hub) (r : Receiver) (mailbox : Mailbox) : Hub :=
  h.update r.day (·.map fun m => if m.id = r.id then { m with mailbox } else m)

/-- Reads what comes first for a receiver. -/
def receive (h : Hub) (r : Receiver) : Option Notice × Hub :=
  match (h.unread r).take? with
  | none => (none, h)
  | some (notice, rest) => (some notice, h.setMailbox r rest)

/-- Reads everything that a receiver has not read yet. -/
def drain (h : Hub) (r : Receiver) : List Notice × Hub :=
  ((h.unread r).notices, h.setMailbox r {})

end Hub
end Holdfast
