import Holdfast.Proofs.Room.Gathering

/-!
# What the rooms deliver

Whatever happens in the rooms, in whatever order: receivers come and go, read, events are told, and empty
rooms are taken away. Who listens is told every event of its day since it joined, each of them once and
in order. If it has more of them unread than a member keeps, it loses the oldest ones and is told how many
they are (`Delivers.reads`). Its room is not taken away as long as it listens, and no other room
is opened for its day, so all those who listen on a day are in one room.
-/

namespace Holdfast.Gathering

/-- **What the rooms deliver** to those who listen in them. -/
structure Delivers (g : Gathering) : Prop where
  /-- Each of those who listen has its own receiver. -/
  distinct : (g.listeners.map (·.receiver)).Nodup
  /-- An event reaches as many as listen on its day. -/
  reaches : ∀ e, (g.rooms.emit e).1 = (g.listeners.filter (·.receiver.day = e.day)).length
  /-- What was said to a listener is what it has been told by what it read, and then what it has not read
  yet. The next that it reads is the oldest event of that, or how many are lost. -/
  reads : ∀ l ∈ g.listeners, ∃ read unread, g.said l = read ++ unread ∧ Tells read l.heard ∧
    (g.rooms.receive l.receiver).1 = Notice.firstOf unread
  /-- There is a room for the day of a listener, of which it is a member. -/
  stands : ∀ l ∈ g.listeners, ∃ room, g.rooms.rooms.get? l.receiver.day = some room ∧
    l.receiver.id ∈ room.map (·.id)
  /-- It is the room that the listener joined: no other one was opened since. -/
  joined : ∀ l ∈ g.listeners, l.opening = g.openings l.receiver.day
  /-- So who listens on the same day has joined the same room. -/
  together : ∀ l ∈ g.listeners, ∀ l' ∈ g.listeners, l.receiver.day = l'.receiver.day →
    l.opening = l'.opening

/-- **The rooms deliver what is said to those who listen**, whatever happens in them. -/
theorem delivers_after (turns : List Turn) : (Gathering.after {} turns).Delivers := by
  have sound := sound_empty.after turns
  generalize Gathering.after {} turns = g at sound
  have joined : ∀ l ∈ g.listeners, l.opening = g.openings l.receiver.day :=
    fun l mem => (sound.follows l mem).newest
  refine ⟨sound.distinct, ?reaches, ?reads, ?stands, joined, ?together⟩
  case reaches =>
    intro e
    rw [Hub.emit_reaches, sound.numbers, Receiver.numbersOn, receivers, List.filter_map]
    simp [Function.comp_def]
  case reads =>
    intro l mem
    obtain ⟨read, unread, said, tells, own⟩ := (sound.follows l mem).reads
    exact ⟨read, unread, said, tells, (Hub.receive_keeping own).1⟩
  case stands =>
    intro l mem
    exact sound.room_of_mem (List.mem_map_of_mem mem)
  case together =>
    intro l mem l' mem' same
    rw [joined l mem, joined l' mem', same]

-- two events more than are kept: the two oldest ones are lost, and the third one is read next
example :
    let day : Day := ⟨2026, 3, 1, by decide⟩
    let told := (List.range (Mailbox.capacity + 2)).map fun n => RoomEvent.booked n.toUInt64 day
    let g := Gathering.after {} (.join day :: told.map .emit ++
      [.prune day, .receive ⟨day, 0⟩, .receive ⟨day, 0⟩])
    g.listeners.map (·.heard) = [[.lost 2, .event (.booked 2 day)]] := by decide +kernel

end Holdfast.Gathering
