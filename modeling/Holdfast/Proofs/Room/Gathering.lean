import Holdfast.Proofs.Room.Mailbox

/-!
# Those who listen in the rooms

The rooms know their members and what each of them has not read yet. Here they are watched from outside:
who has joined and not left, what was told to all the rooms since the beginning, what each listener has
read, and how often a room was opened for a day (`Gathering`).

What the members' mailboxes have to do with all that is the invariant `Sound`: what was told on a
listener's day since it joined is what it has read and, behind that, what its mailbox keeps. There is
a lemma for each of the things that can happen, and `Sound.after` for all that happens.
-/

namespace Holdfast

/-- **Some notices tell some events**, each of them in order, except that of events which were lost they
only tell how many there were. -/
inductive Tells : List RoomEvent → List Notice → Prop where
  | nothing : Tells [] []
  | event {es : List RoomEvent} {notices : List Notice} (told : Tells es notices) (e : RoomEvent) :
      Tells (es ++ [e]) (notices ++ [.event e])
  | lost {es missed : List RoomEvent} {notices : List Notice} (told : Tells es notices)
      (any : missed ≠ []) : Tells (es ++ missed) (notices ++ [.lost missed.length])

/-- What is read first tells the events that it is about. -/
theorem Tells.concat {read unread : List RoomEvent} {heard : List Notice} {notice : Notice}
    (tells : Tells read heard) (first : Notice.firstOf unread = some notice) :
    Tells (read ++ unread.take notice.size) (heard ++ [notice]) := by
  unfold Notice.firstOf at first
  split at first
  · rename_i many
    obtain rfl := Option.some.inj first
    have size : (unread.take (unread.length - Mailbox.capacity)).length =
        unread.length - Mailbox.capacity := List.length_take_of_le (Nat.sub_le _ _)
    have any : unread.take (unread.length - Mailbox.capacity) ≠ [] := by
      intro none
      rw [none, List.length_nil] at size
      omega
    simpa [size, Notice.size] using tells.lost any
  · cases unread with
    | nil => cases first
    | cons e rest =>
      obtain rfl := Option.some.inj first
      exact tells.event e

/-- The numbers of the receivers of a day. -/
def Receiver.numbersOn (rs : List Receiver) (d : Day) : List Nat :=
  (rs.filter (·.day = d)).map (·.id)

/-- The number of a receiver that is gone is no longer among those of its day. -/
theorem Receiver.numbersOn_filter_ne (rs : List Receiver) (r : Receiver) (d : Day) :
    numbersOn (rs.filter (· ≠ r)) d =
      if d = r.day then (numbersOn rs d).filter (· ≠ r.id) else numbersOn rs d := by
  unfold numbersOn
  rw [List.filter_filter]
  split
  · rename_i same
    rw [List.filter_map, List.filter_filter]
    refine congrArg _ (List.filter_congr fun r' _ => ?_)
    by_cases day : r'.day = d
    · by_cases id : r'.id = r.id
      · simp [eq_of (day.trans same) id]
      · have other : r' ≠ r := fun same => id (congrArg Receiver.id same)
        simp [day, id, other]
    · simp [day]
  · rename_i elsewhere
    refine congrArg _ (List.filter_congr fun r' _ => ?_)
    by_cases day : r'.day = d
    · have other : r' ≠ r := fun same => elsewhere (same ▸ day.symm)
      simp [other]
    · simp [day]

/-- Someone who listens in a room. -/
structure Listener where
  receiver : Receiver
  /-- How many events had been told when it joined. -/
  since : Nat
  /-- How many rooms had been opened for its day, with the one that it joined. -/
  opening : Nat
  /-- What it has read. -/
  heard : List Notice := []
  deriving DecidableEq

/-- The listener has read one more notice, if there was one. -/
def Listener.hear (l : Listener) (answer : Option Notice) : Listener :=
  { l with heard := l.heard ++ answer.toList }

/-- The rooms, those who listen in them, and what has happened there. -/
structure Gathering where
  rooms : Hub := {}
  /-- Who joined and has not left. -/
  listeners : List Listener := []
  /-- All the events, in the order in which they were told. -/
  told : List RoomEvent := []
  /-- How many rooms were opened for each day. -/
  openings : Day → Nat := fun _ => 0

namespace Gathering

/-- Something that happens in the rooms. -/
inductive Turn where
  | join (d : Day)
  | leave (r : Receiver)
  | receive (r : Receiver)
  | emit (e : RoomEvent)
  | prune (d : Day)

/-- How many rooms were opened for each day once one of them was joined, for which there is a new room
if it had none. -/
def opened (g : Gathering) (d d' : Day) : Nat :=
  if d' = d ∧ g.rooms.rooms.get? d = none then g.openings d' + 1 else g.openings d'

/-- What becomes of a gathering. -/
def next (g : Gathering) : Turn → Gathering
  | .join d =>
    { g with
      rooms := (g.rooms.join d).2
      listeners := g.listeners ++
        [{ receiver := (g.rooms.join d).1, since := g.told.length, opening := g.opened d d }]
      openings := g.opened d }
  | .leave r =>
    { g with rooms := g.rooms.leave r, listeners := g.listeners.filter (·.receiver ≠ r) }
  | .receive r =>
    { g with
      rooms := (g.rooms.receive r).2
      listeners := g.listeners.map fun l =>
        if l.receiver = r then l.hear (g.rooms.receive r).1 else l }
  | .emit e => { g with rooms := (g.rooms.emit e).2, told := g.told ++ [e] }
  | .prune d => { g with rooms := g.rooms.prune d }

/-- The gathering after some things happened, one after the other. -/
def after (g : Gathering) (turns : List Turn) : Gathering := turns.foldl next g

/-- Who listens. -/
def receivers (g : Gathering) : List Receiver := g.listeners.map (·.receiver)

/-- Who joins listens, too. -/
theorem receivers_join (g : Gathering) (d : Day) :
    (g.next (.join d)).receivers = g.receivers ++ [(g.rooms.join d).1] :=
  List.map_append

/-- Who leaves no longer listens. -/
theorem receivers_leave (g : Gathering) (r : Receiver) :
    (g.next (.leave r)).receivers = g.receivers.filter (· ≠ r) := by
  simp only [receivers, List.filter_map]
  rfl

/-- Who reads still listens. -/
theorem receivers_receive (g : Gathering) (r : Receiver) :
    (g.next (.receive r)).receivers = g.receivers := by
  simp only [receivers, next, List.map_map]
  refine List.map_congr_left fun l _ => ?_
  simp only [Function.comp_apply]
  split <;> rfl

/-- **What was said to a listener**: what was told on its day since it joined. -/
def said (g : Gathering) (l : Listener) : List RoomEvent :=
  (g.told.drop l.since).filter (·.day = l.receiver.day)

/-- What is known of a listener. -/
structure Follows (g : Gathering) (l : Listener) : Prop where
  since_le : l.since ≤ g.told.length
  newest : l.opening = g.openings l.receiver.day
  reads : ∃ read unread, g.said l = read ++ unread ∧ Tells read l.heard ∧
    g.rooms.mailbox? l.receiver = some (Mailbox.keeping unread)

/-- **The members of the rooms are those who listen**, each with what it has not read yet. -/
structure Sound (g : Gathering) : Prop where
  numbered : g.rooms.Numbered
  numbers : ∀ d, g.rooms.numbersOf d = Receiver.numbersOn g.receivers d
  distinct : g.receivers.Nodup
  follows : ∀ l ∈ g.listeners, g.Follows l

/-- At first there is nobody. -/
theorem sound_empty : Sound {} where
  numbered := Hub.numbered_empty
  numbers _ := rfl
  distinct := List.nodup_nil
  follows _ mem := nomatch mem

variable {g g' : Gathering} {l : Listener}

/-- Nothing is told, and what concerns the listener stays as it is. -/
theorem Follows.of_same (follows : g.Follows l) (told : g'.told = g.told)
    (openings : g'.openings l.receiver.day = g.openings l.receiver.day)
    (mailbox : g'.rooms.mailbox? l.receiver = g.rooms.mailbox? l.receiver) : g'.Follows l where
  since_le := told ▸ follows.since_le
  newest := follows.newest.trans openings.symm
  reads := by
    rw [said, told, mailbox]
    exact follows.reads

/-- **The listener reads.** What it reads first tells the oldest of the events that it has not read. -/
theorem Follows.receive (follows : g.Follows l) :
    (g.next (.receive l.receiver)).Follows (l.hear (g.rooms.receive l.receiver).1) := by
  obtain ⟨since_le, newest, read, unread, said, tells, own⟩ := follows
  obtain ⟨answer, left⟩ := Hub.receive_keeping own
  refine ⟨since_le, newest, ?_⟩
  cases first : Notice.firstOf unread with
  | none =>
    rw [first] at answer left
    refine ⟨read, unread, said, ?_, left⟩
    simpa [Listener.hear, answer] using tells
  | some notice =>
    rw [first] at answer left
    refine ⟨read ++ unread.take notice.size, unread.drop notice.size, ?_, ?_, left⟩
    · rw [List.append_assoc, List.take_append_drop]
      exact said
    · simpa [Listener.hear, answer] using tells.concat first

/-- What is told now is said to those who listen on its day. -/
theorem said_emit (since_le : l.since ≤ g.told.length) (e : RoomEvent) :
    (g.next (.emit e)).said l = g.said l ++ if e.day = l.receiver.day then [e] else [] := by
  show ((g.told ++ [e]).drop l.since).filter _ = _
  rw [List.drop_append_of_le_length since_le, List.filter_append]
  by_cases same : e.day = l.receiver.day <;> simp [said, same]

/-- **The listener is told something**, if it is of its day: one more event that it has not read. -/
theorem Follows.emit (follows : g.Follows l) (e : RoomEvent) : (g.next (.emit e)).Follows l := by
  obtain ⟨since_le, newest, read, unread, said_eq, tells, own⟩ := follows
  have own_next : (g.next (.emit e)).rooms.mailbox? l.receiver =
      some (if e.day = l.receiver.day then Mailbox.keeping (unread ++ [e])
        else Mailbox.keeping unread) := by
    simp [next, g.rooms.mailbox?_emit, own, Mailbox.post_keeping]
  refine ⟨?_, newest, ?_⟩
  · rw [next, List.length_append]
    exact Nat.le_add_right_of_le since_le
  · rw [said_emit since_le, own_next, said_eq]
    split
    · exact ⟨read, unread ++ [e], List.append_assoc _ _ _, tells, rfl⟩
    · exact ⟨read, unread, List.append_nil _, tells, rfl⟩

namespace Sound

/-- The number of who listens is that of a member. -/
theorem mem_numbersOf (sound : g.Sound) {r : Receiver} (mem : r ∈ g.receivers) :
    r.id ∈ g.rooms.numbersOf r.day := by
  rw [sound.numbers]
  exact List.mem_map_of_mem (List.mem_filter.2 ⟨mem, decide_eq_true rfl⟩)

/-- It was given out. -/
theorem lt_joined (sound : g.Sound) {r : Receiver} (mem : r ∈ g.receivers) :
    r.id < g.rooms.joined := by
  obtain ⟨m, there, id⟩ := List.mem_map.1 (sound.mem_numbersOf mem)
  exact id ▸ sound.numbered.lt there

/-- Where someone listens there is a room. -/
theorem room_of_mem (sound : g.Sound) {r : Receiver} (mem : r ∈ g.receivers) :
    ∃ room, g.rooms.rooms.get? r.day = some room ∧ r.id ∈ room.map (·.id) := by
  have number := sound.mem_numbersOf mem
  unfold Hub.numbersOf Hub.membersOf at number
  cases there : g.rooms.rooms.get? r.day with
  | none => simp [there] at number
  | some room =>
    rw [there, Option.getD_some] at number
    exact ⟨room, rfl, number⟩

/-- Someone joins. -/
theorem join (sound : g.Sound) (d : Day) : (g.next (.join d)).Sound where
  numbered := sound.numbered.join d
  numbers d' := by
    simp only [Gathering.next, receivers, List.map_append, Receiver.numbersOn, List.filter_append]
    rw [g.rooms.numbersOf_join, sound.numbers, sound.numbers]
    by_cases same : d' = d
    · simp [same, receivers, Receiver.numbersOn, Hub.join]
    · simp [same, Ne.symm same, receivers, Receiver.numbersOn, Hub.join]
  distinct := by
    have new : ∀ r ∈ g.receivers, r ≠ (g.rooms.join d).1 := by
      rintro _ mem rfl
      exact Nat.lt_irrefl g.rooms.joined (sound.lt_joined mem)
    simp only [Gathering.next, receivers, List.map_append]
    apply List.nodup_append.2 ⟨sound.distinct, List.pairwise_singleton _ _, ?_⟩
    intro r mem r' mem'
    exact List.mem_singleton.1 mem' ▸ new r mem
  follows := by
    intro l mem
    rcases List.mem_append.1 mem with mem | mem
    · have listens : l.receiver ∈ g.receivers := List.mem_map_of_mem mem
      refine (sound.follows l mem).of_same rfl ?_ (Hub.mailbox?_join d (sound.lt_joined listens))
      -- who listens has a room, so that a new one is a room of another day
      obtain ⟨room, there, -⟩ := sound.room_of_mem listens
      apply if_neg
      rintro ⟨same, missing⟩
      rw [same, missing] at there
      cases there
    · obtain rfl := List.mem_singleton.1 mem
      refine ⟨Nat.le_refl _, rfl, [], [], ?_, .nothing, Hub.mailbox?_joined sound.numbered d⟩
      simp [said, Gathering.next]

/-- Someone leaves. -/
theorem leave (sound : g.Sound) (r : Receiver) : (g.next (.leave r)).Sound := by
  refine ⟨sound.numbered.leave r, ?_, ?_, ?_⟩
  · intro d
    rw [g.receivers_leave, Receiver.numbersOn_filter_ne, ← sound.numbers]
    exact g.rooms.numbersOf_leave r d
  · rw [g.receivers_leave]
    exact sound.distinct.filter _
  · intro l mem
    obtain ⟨mem, other⟩ := List.mem_filter.1 mem
    exact (sound.follows l mem).of_same rfl rfl (Hub.mailbox?_leave (Ne.symm (of_decide_eq_true other)))

/-- Someone reads. -/
theorem receive (sound : g.Sound) (r : Receiver) : (g.next (.receive r)).Sound := by
  refine ⟨sound.numbered.receive r, ?_, g.receivers_receive r ▸ sound.distinct, ?_⟩
  · intro d
    rw [g.receivers_receive, ← sound.numbers]
    exact g.rooms.numbersOf_receive r d
  · intro l' mem
    obtain ⟨l, there, rfl⟩ := List.mem_map.1 mem
    have follows := sound.follows l there
    split
    · rename_i mine
      exact mine ▸ follows.receive
    · rename_i other
      exact follows.of_same rfl rfl (Hub.mailbox?_receive (Ne.symm other))

/-- Something is told. -/
theorem emit (sound : g.Sound) (e : RoomEvent) : (g.next (.emit e)).Sound where
  numbered := sound.numbered.emit e
  numbers d := (g.rooms.numbersOf_emit e d).trans (sound.numbers d)
  distinct := sound.distinct
  follows l mem := (sound.follows l mem).emit e

/-- An empty room is taken away. -/
theorem prune (sound : g.Sound) (d : Day) : (g.next (.prune d)).Sound where
  numbered := sound.numbered.prune d
  numbers d' := (g.rooms.numbersOf_prune d d').trans (sound.numbers d')
  distinct := sound.distinct
  follows l mem := (sound.follows l mem).of_same rfl rfl (g.rooms.mailbox?_prune d l.receiver)

/-- Whatever happens in the rooms. -/
theorem next (sound : g.Sound) : ∀ turn : Turn, (g.next turn).Sound
  | .join d => sound.join d
  | .leave r => sound.leave r
  | .receive r => sound.receive r
  | .emit e => sound.emit e
  | .prune d => sound.prune d

/-- **Whatever happens in the rooms, one after the other.** -/
theorem after (sound : g.Sound) (turns : List Turn) : (g.after turns).Sound := by
  induction turns generalizing g with
  | nil => exact sound
  | cons turn rest ih => exact ih (sound.next turn)

end Sound

end Gathering
end Holdfast
