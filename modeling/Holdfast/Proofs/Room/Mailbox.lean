import Holdfast.Room.Hub

/-!
# Mailboxes

What a receiver has not read yet, through all that happens to the rooms. An event of its day is
posted to its mailbox (`mailbox?_emitAll`); who else joins, leaves or reads leaves the mailbox as it
is, as long as no two receivers have one number (`Hub.Numbered`).

A mailbox that is posted to keeps the latest events and counts the older ones that it lost
(`waiting_postAll`). All of it is told by the events that were not read yet, lost or not: it is what
can be kept of them (`post_keeping`, `take?_keeping`).
-/

namespace Holdfast

namespace Mailbox

variable (m : Mailbox) (e : RoomEvent) (es : List RoomEvent)

/-- Some more events, one after the other. -/
def postAll : Mailbox := es.foldl post m

/-- What is lost with one more event is the oldest event, if there is no room for it. -/
theorem waiting_post : ∃ dropped : List RoomEvent,
    m.waiting ++ [e] = dropped ++ (m.post e).waiting ∧
      (m.post e).lost = m.lost + dropped.length := by
  unfold post
  split
  · exact ⟨[], rfl, rfl⟩
  · rename_i full
    cases waiting : m.waiting with
    | nil =>
      rw [waiting] at full
      exact absurd (by decide) full
    | cons oldest rest => exact ⟨[oldest], rfl, rfl⟩

/-- **What is lost with some more events are the oldest ones.** -/
theorem waiting_postAll : ∃ dropped : List RoomEvent,
    m.waiting ++ es = dropped ++ (m.postAll es).waiting ∧
      (m.postAll es).lost = m.lost + dropped.length := by
  induction es generalizing m with
  | nil => exact ⟨[], List.append_nil _, rfl⟩
  | cons e es ih =>
    obtain ⟨first, split, count⟩ := m.waiting_post e
    obtain ⟨dropped, split', count'⟩ := ih (m.post e)
    refine ⟨first ++ dropped, ?_, ?_⟩
    · calc m.waiting ++ e :: es = (m.waiting ++ [e]) ++ es := by simp
        _ = first ++ ((m.post e).waiting ++ es) := by rw [split, List.append_assoc]
        _ = first ++ dropped ++ (m.postAll (e :: es)).waiting := by
          rw [split', List.append_assoc]
          rfl
    · show ((m.post e).postAll es).lost = _
      rw [count', count, List.length_append, Nat.add_assoc]

end Mailbox

namespace Notice

/-- How many events a notice is about. -/
def size : Notice → Nat
  | lost n => n
  | event _ => 1

/-- **What is read first of the events that were not read yet**: how many of them are lost, if there
are more than are kept, and else the oldest one. -/
def firstOf (unread : List RoomEvent) : Option Notice :=
  if Mailbox.capacity < unread.length then some (.lost (unread.length - Mailbox.capacity))
  else unread.head?.map .event

end Notice

namespace Mailbox

variable (unread : List RoomEvent) (e : RoomEvent)

/-- What is kept of the events that were not read yet: the latest of them, and the number of the
others. -/
def keeping : Mailbox where
  lost := unread.length - capacity
  waiting := unread.drop (unread.length - capacity)

/-- Nothing is lost of a few events. -/
theorem keeping_of_le {unread : List RoomEvent} (few : unread.length ≤ capacity) :
    keeping unread = { waiting := unread } := by
  simp [keeping, Nat.sub_eq_zero_of_le few]

/-- One more event is not read yet. -/
theorem post_keeping : (keeping unread).post e = keeping (unread ++ [e]) := by
  have positive : 0 < capacity := by decide
  unfold post
  split
  · rename_i room
    have few : unread.length < capacity := by
      simp only [keeping, List.length_drop] at room
      omega
    have few' : (unread ++ [e]).length ≤ capacity := by
      rw [List.length_append]
      exact few
    rw [keeping_of_le (Nat.le_of_lt few), keeping_of_le few']
  · rename_i full
    have many : capacity ≤ unread.length := by
      simp only [keeping, List.length_drop] at full
      omega
    have one_more : unread.length + 1 - capacity = unread.length - capacity + 1 := by omega
    have inside : unread.length - capacity + 1 ≤ unread.length := by omega
    simp [keeping, one_more, List.drop_append_of_le_length inside]

/-- What is read first is no longer among what was not read yet. -/
theorem take?_keeping :
    (keeping unread).take? =
      (Notice.firstOf unread).map fun notice => (notice, keeping (unread.drop notice.size)) := by
  unfold take? Notice.firstOf
  by_cases many : capacity < unread.length
  · have some_lost : unread.length - capacity ≠ 0 := by omega
    have rest : (unread.drop (unread.length - capacity)).length ≤ capacity := by
      rw [List.length_drop]
      omega
    simp only [keeping_of_le rest, Notice.size, if_pos many, Option.map_some]
    simp [keeping, some_lost]
  · rw [keeping_of_le (Nat.le_of_not_lt many), if_neg many]
    cases unread with
    | nil => rfl
    | cons e rest =>
      have few : rest.length ≤ capacity := by
        rw [List.length_cons] at many
        omega
      simp [Notice.size, keeping_of_le few]

end Mailbox

/-- A receiver is told by its day and its number. -/
theorem Receiver.eq_of {r r' : Receiver} (day : r.day = r'.day) (id : r.id = r'.id) : r = r' := by
  cases r
  cases r'
  simp_all

namespace Hub

variable {h : Hub} {r r' : Receiver}

/-! ## Members -/

/-- The members after a change to those of one day; there is nobody to change where nobody is. -/
theorem membersOf_update (h : Hub) (d d' : Day) {f : List Member → List Member} (nobody : f [] = []) :
    (h.update d f).membersOf d' = if d' = d then f (h.membersOf d) else h.membersOf d' := by
  unfold update membersOf
  cases room : h.rooms.get? d with
  | none =>
    by_cases same : d' = d
    · simp [same, room, nobody]
    · simp [same]
  | some ms =>
    by_cases same : d' = d
    · simp [same]
    · simp [same, h.rooms.get?_insert_ne same]

/-- Taking away an empty room leaves the members of all rooms as they are. -/
@[simp] theorem membersOf_prune (h : Hub) (d d' : Day) :
    (h.prune d).membersOf d' = h.membersOf d' := by
  unfold prune
  split
  · rename_i nobody
    by_cases same : d' = d
    · subst same
      rw [nobody]
      simp [membersOf]
    · simp [membersOf, h.rooms.get?_erase_ne same]
  · rfl

/-- Who joins is the last member of a day's room. -/
theorem membersOf_join (h : Hub) (d d' : Day) :
    (h.join d).2.membersOf d' =
      if d' = d then h.membersOf d ++ [{ id := h.joined }] else h.membersOf d' := by
  unfold join
  by_cases same : d' = d
  · simp [same, membersOf]
  · simp [same, membersOf, h.rooms.get?_insert_ne same]

/-- The members after an event: those of its day have it in their mailboxes. -/
theorem membersOf_emit (h : Hub) (e : RoomEvent) (d : Day) :
    (h.emit e).2.membersOf d =
      if d = e.day then
        (h.membersOf e.day).map fun m => { m with mailbox := m.mailbox.post e }
      else h.membersOf d := by
  unfold emit
  split
  · rename_i nobody
    by_cases same : d = e.day
    · simp [same, nobody]
    · simp [same]
  · exact h.membersOf_update e.day d rfl

/-! ## Numbers -/

/-- Changing members gives out no numbers. -/
@[simp] theorem joined_update (h : Hub) (d : Day) (f : List Member → List Member) :
    (h.update d f).joined = h.joined := by
  unfold update
  split <;> rfl

@[simp] theorem joined_leave (h : Hub) (r : Receiver) : (h.leave r).joined = h.joined :=
  h.joined_update r.day _

@[simp] theorem joined_setMailbox (h : Hub) (r : Receiver) (mailbox : Mailbox) :
    (h.setMailbox r mailbox).joined = h.joined := h.joined_update r.day _

/-- Nor does taking away an empty room. -/
@[simp] theorem joined_prune (h : Hub) (d : Day) : (h.prune d).joined = h.joined := by
  unfold prune
  split <;> rfl

/-- Nor does telling something. -/
@[simp] theorem joined_emit (h : Hub) (e : RoomEvent) : (h.emit e).2.joined = h.joined := by
  unfold emit
  split
  · exact h.joined_prune e.day
  · exact h.joined_update e.day _

/-- The numbers of the members of a day's room. -/
def numbersOf (h : Hub) (d : Day) : List Nat := (h.membersOf d).map (·.id)

/-- Who joins gets the next number. -/
theorem numbersOf_join (h : Hub) (d d' : Day) :
    (h.join d).2.numbersOf d' =
      if d' = d then h.numbersOf d ++ [h.joined] else h.numbersOf d' := by
  rw [numbersOf, h.membersOf_join]
  split
  · simp [numbersOf]
  · rfl

/-- The number of who leaves is gone. -/
theorem numbersOf_leave (h : Hub) (r : Receiver) (d : Day) :
    (h.leave r).numbersOf d =
      if d = r.day then (h.numbersOf d).filter (· ≠ r.id) else h.numbersOf d := by
  rw [numbersOf, leave, h.membersOf_update r.day d rfl]
  split
  · rename_i same
    rw [numbersOf, List.filter_map, same]
    rfl
  · rfl

/-- Who reads keeps its number. -/
@[simp] theorem numbersOf_setMailbox (h : Hub) (r : Receiver) (mailbox : Mailbox) (d : Day) :
    (h.setMailbox r mailbox).numbersOf d = h.numbersOf d := by
  rw [numbersOf, setMailbox, h.membersOf_update r.day d rfl]
  split
  · rename_i same
    rw [numbersOf, List.map_map, same]
    refine List.map_congr_left fun m _ => ?_
    show (if m.id = r.id then { m with mailbox } else m).id = m.id
    split <;> rfl
  · rfl

/-- So does who is told something. -/
@[simp] theorem numbersOf_emit (h : Hub) (e : RoomEvent) (d : Day) :
    (h.emit e).2.numbersOf d = h.numbersOf d := by
  rw [numbersOf, h.membersOf_emit]
  split
  · rename_i same
    rw [numbersOf, List.map_map, same]
    rfl
  · rfl

/-- An event reaches all the members of its day's room. -/
theorem emit_reaches (h : Hub) (e : RoomEvent) : (h.emit e).1 = (h.numbersOf e.day).length := by
  unfold emit
  split
  · rename_i nobody
    simp [numbersOf, nobody]
  · simp [numbersOf, members]

/-- Nobody has a number in an empty room. -/
@[simp] theorem numbersOf_prune (h : Hub) (d d' : Day) :
    (h.prune d).numbersOf d' = h.numbersOf d' := by
  simp [numbersOf]

/-- The members of a room have numbers in the order in which they came, all of them given out. -/
def Numbered (h : Hub) : Prop :=
  ∀ d, ((h.membersOf d).map (·.id) ++ [h.joined]).Pairwise (· < ·)

/-- There is nobody in no room. -/
theorem numbered_empty : ({} : Hub).Numbered := fun _ => List.pairwise_singleton _ _

namespace Numbered

/-- Every member has a number that was given out. -/
theorem lt (numbered : h.Numbered) {d : Day} {m : Member} (mem : m ∈ h.membersOf d) :
    m.id < h.joined :=
  (List.pairwise_append.1 (numbered d)).2.2 _ (List.mem_map_of_mem mem) _ List.mem_cons_self

/-- No two members of a room have one number. -/
theorem unique (numbered : h.Numbered) {d : Day} {m m' : Member} (mem : m ∈ h.membersOf d)
    (mem' : m' ∈ h.membersOf d) (same : m.id = m'.id) : m = m' := by
  have apart := List.pairwise_iff_getElem.1
    (List.pairwise_map.1 (List.pairwise_append.1 (numbered d)).1)
  obtain ⟨i, inside, rfl⟩ := List.getElem_of_mem mem
  obtain ⟨j, inside', rfl⟩ := List.getElem_of_mem mem'
  rcases Nat.lt_trichotomy i j with before | rfl | after
  · exact absurd same (Nat.ne_of_lt (apart i j inside inside' before))
  · rfl
  · exact absurd same.symm (Nat.ne_of_lt (apart j i inside' inside after))

/-- The numbers in a room differ. -/
theorem nodup (numbered : h.Numbered) (d : Day) : (h.numbersOf d).Nodup :=
  (List.pairwise_append.1 (numbered d)).1.imp Nat.ne_of_lt

/-- No numbers are given out by a change that at most takes members away. -/
theorem mono {h' : Hub} (numbered : h.Numbered) (joined : h'.joined = h.joined)
    (old : ∀ d, (h'.numbersOf d).Sublist (h.numbersOf d)) : h'.Numbered := by
  intro d
  rw [joined]
  exact (numbered d).sublist ((old d).append_right _)

/-- Someone joins. -/
theorem join (numbered : h.Numbered) (d : Day) : (h.join d).2.Numbered := by
  intro d'
  show (((h.join d).2.membersOf d').map (·.id) ++ [h.joined + 1]).Pairwise (· < ·)
  have later : ∀ {ids : List Nat}, (ids ++ [h.joined]).Pairwise (· < ·) →
      (ids ++ [h.joined] ++ [h.joined + 1]).Pairwise (· < ·) := by
    intro ids before
    refine List.pairwise_append.2 ⟨before, List.pairwise_singleton _ _, fun a mem b mem' => ?_⟩
    rw [List.mem_singleton.1 mem']
    rcases List.mem_append.1 mem with mem | mem
    · exact Nat.lt_succ_of_lt
        ((List.pairwise_append.1 before).2.2 a mem _ List.mem_cons_self)
    · rw [List.mem_singleton.1 mem]
      exact Nat.lt_succ_self _
  rw [h.membersOf_join]
  split
  · rw [List.map_append]
    exact later (numbered d)
  · exact (later (numbered d')).sublist ((List.sublist_append_left _ _).append_right _)

/-- Someone leaves. -/
theorem leave (numbered : h.Numbered) (r : Receiver) : (h.leave r).Numbered := by
  apply numbered.mono (h.joined_leave r)
  intro d
  rw [h.numbersOf_leave]
  split
  · exact List.filter_sublist
  · exact List.Sublist.refl _

/-- An empty room is taken away. -/
theorem prune (numbered : h.Numbered) (d : Day) : (h.prune d).Numbered :=
  numbered.mono (h.joined_prune d) fun d' => by simp

/-- Someone reads. -/
theorem setMailbox (numbered : h.Numbered) (r : Receiver) (mailbox : Mailbox) :
    (h.setMailbox r mailbox).Numbered :=
  numbered.mono (h.joined_setMailbox r mailbox) fun d => by simp

/-- Someone is told something. -/
theorem emit (numbered : h.Numbered) (e : RoomEvent) : (h.emit e).2.Numbered :=
  numbered.mono (h.joined_emit e) fun d => by simp

end Numbered

/-! ## Mailboxes of receivers -/

/-- What a receiver has not read yet, if it is a member of its room. -/
def mailbox? (h : Hub) (r : Receiver) : Option Mailbox :=
  ((h.membersOf r.day).find? (·.id = r.id)).map (·.mailbox)

/-- Who is no member has nothing to read. -/
theorem unread_eq (h : Hub) (r : Receiver) : h.unread r = (h.mailbox? r).getD {} := rfl

/-- Members that are changed keep their numbers, so that the same one is found. -/
theorem find?_map_member {g : Member → Member} (keeps : ∀ m, (g m).id = m.id) (ms : List Member)
    (n : Nat) : (ms.map g).find? (·.id = n) = (ms.find? (·.id = n)).map g := by
  rw [List.find?_map]
  congr 2
  funext m
  simp [keeps]

/-- An event is posted to the mailboxes of its day. -/
theorem mailbox?_emit (h : Hub) (e : RoomEvent) (r : Receiver) :
    (h.emit e).2.mailbox? r =
      (h.mailbox? r).map fun m => if e.day = r.day then m.post e else m := by
  unfold mailbox?
  rw [h.membersOf_emit, Option.map_map]
  by_cases same : r.day = e.day
  · let told (m : Member) : Member := { m with mailbox := m.mailbox.post e }
    have found := find?_map_member (g := told) (fun _ => rfl) (h.membersOf r.day) r.id
    rw [if_pos same, ← same, found, Option.map_map]
    simp only [if_true]
    rfl
  · rw [if_neg same]
    congr 1
    funext m
    simp [Ne.symm same]

/-- The rooms after some events. -/
def emitAll (h : Hub) (es : List RoomEvent) : Hub := es.foldl (fun h e => (h.emit e).2) h

/-- **Of some events, those of its day are posted to a mailbox.** -/
theorem mailbox?_emitAll (h : Hub) (es : List RoomEvent) (r : Receiver) :
    (h.emitAll es).mailbox? r = (h.mailbox? r).map (·.postAll (es.filter (·.day = r.day))) := by
  induction es generalizing h with
  | nil => simp [emitAll, Mailbox.postAll]
  | cons e es ih =>
    show ((h.emit e).2.emitAll es).mailbox? r = _
    rw [ih, h.mailbox?_emit, Option.map_map]
    congr 1
    funext m
    by_cases same : e.day = r.day
    · simp [same, Mailbox.postAll]
    · simp [same]

@[simp] theorem joined_emitAll (h : Hub) (es : List RoomEvent) :
    (h.emitAll es).joined = h.joined := by
  induction es generalizing h with
  | nil => rfl
  | cons e es ih => exact (ih (h.emit e).2).trans (h.joined_emit e)

/-- Events give out no numbers. -/
theorem Numbered.emitAll (numbered : h.Numbered) (es : List RoomEvent) :
    (h.emitAll es).Numbered := by
  induction es generalizing h with
  | nil => exact numbered
  | cons e es ih => exact ih (numbered.emit e)

/-- Someone else joins. -/
theorem mailbox?_join (d : Day) (given : r.id < h.joined) :
    (h.join d).2.mailbox? r = h.mailbox? r := by
  unfold mailbox?
  rw [h.membersOf_join]
  split
  · rename_i same
    have other : ¬ h.joined = r.id := by omega
    rw [List.find?_append, same]
    simp [other]
  · rfl

/-- Who joins has nothing to read yet. -/
theorem mailbox?_joined (numbered : h.Numbered) (d : Day) :
    (h.join d).2.mailbox? (h.join d).1 = some {} := by
  have new : (h.membersOf d).find? (·.id = h.joined) = none := by
    rw [List.find?_eq_none]
    intro m mem
    have := numbered.lt mem
    simpa using by omega
  show (((h.join d).2.membersOf d).find? (·.id = h.joined)).map (·.mailbox) = _
  rw [h.membersOf_join, if_pos rfl, List.find?_append, new]
  simp

/-- Someone else leaves. -/
theorem mailbox?_leave (other : r' ≠ r) : (h.leave r').mailbox? r = h.mailbox? r := by
  unfold mailbox? leave
  rw [h.membersOf_update r'.day r.day rfl]
  split
  · rename_i same
    have other_number : ¬ r.id = r'.id := fun id => other (Receiver.eq_of same.symm id.symm)
    rw [List.find?_filter, same]
    congr 2
    funext m
    by_cases mine : m.id = r.id
    · simp [mine, other_number]
    · simp [mine]
  · rfl

/-- An empty room is taken away. -/
@[simp] theorem mailbox?_prune (h : Hub) (d : Day) (r : Receiver) :
    (h.prune d).mailbox? r = h.mailbox? r := by
  simp [mailbox?]

/-- A mailbox is changed. -/
theorem mailbox?_setMailbox (h : Hub) (r r' : Receiver) (mailbox : Mailbox) :
    (h.setMailbox r' mailbox).mailbox? r =
      (h.mailbox? r).map fun m => if r.day = r'.day ∧ r.id = r'.id then mailbox else m := by
  unfold mailbox? setMailbox
  rw [h.membersOf_update r'.day r.day rfl, Option.map_map]
  by_cases same : r.day = r'.day
  · rw [if_pos same, ← same, find?_map_member (fun m => by split <;> rfl), Option.map_map]
    refine Option.map_congr fun m found => ?_
    have mine : m.id = r.id := by simpa using List.find?_some found
    by_cases reader : r.id = r'.id <;> simp [mine, reader]
  · rw [if_neg same]
    congr 1
    funext m
    simp [same]

/-- Of two mailboxes that a receiver is given, it has the second one. -/
theorem setMailbox_setMailbox (h : Hub) (r : Receiver) (first second : Mailbox) :
    (h.setMailbox r first).setMailbox r second = h.setMailbox r second := by
  unfold setMailbox update
  cases room : h.rooms.get? r.day with
  | none => simp [room]
  | some ms =>
    simp only [SortedMap.get?_insert_self, List.map_map, Hub.mk.injEq, and_true]
    refine SortedMap.ext_get? fun d => ?_
    by_cases same : d = r.day
    · subst same
      simp only [SortedMap.get?_insert_self, Option.some.injEq]
      refine List.map_congr_left fun m _ => ?_
      by_cases mine : m.id = r.id <;> simp [mine]
    · simp [SortedMap.get?_insert_ne _ same]

/-- A receiver that is given the mailbox that it has. -/
theorem setMailbox_self (numbered : h.Numbered) {mailbox : Mailbox}
    (own : h.mailbox? r = some mailbox) : h.setMailbox r mailbox = h := by
  have keeps : (h.membersOf r.day).map (fun m => if m.id = r.id then { m with mailbox } else m) =
      h.membersOf r.day := by
    obtain ⟨m, found, rfl⟩ := Option.map_eq_some_iff.1 own
    refine (List.map_congr_left fun m' mem => ?_).trans (List.map_id _)
    have mine : m.id = r.id := by simpa using List.find?_some found
    by_cases same : m'.id = r.id
    · rw [if_pos same, numbered.unique mem (List.mem_of_find?_eq_some found) (same.trans mine.symm)]
      rfl
    · rw [if_neg same]
      rfl
  unfold setMailbox update
  cases room : h.rooms.get? r.day with
  | none => rfl
  | some ms =>
    rw [membersOf, room, Option.getD_some] at keeps
    simp only [keeps]
    obtain ⟨rooms, joined⟩ := h
    simp only [Hub.mk.injEq, and_true]
    refine SortedMap.ext_get? fun d => ?_
    by_cases same : d = r.day
    · subst same
      rw [SortedMap.get?_insert_self]
      exact room.symm
    · exact SortedMap.get?_insert_ne _ same ms

/-! ## Reading -/

/-- **A receiver reads**: the rooms are the same but for its mailbox. -/
structure Reads (h h' : Hub) (r : Receiver) (mailbox : Mailbox) : Prop where
  numbered : h.Numbered → h'.Numbered
  joined : h'.joined = h.joined
  own : h'.mailbox? r = some mailbox
  others : ∀ r' : Receiver, r.id ≠ r'.id → h'.mailbox? r' = h.mailbox? r'

/-- Nothing is read. -/
theorem Reads.refl {mailbox : Mailbox} (own : h.mailbox? r = some mailbox) :
    h.Reads h r mailbox := ⟨id, rfl, own, fun _ _ => rfl⟩

/-- The mailbox of a member is changed. -/
theorem reads_setMailbox {before : Mailbox} (own : h.mailbox? r = some before)
    (mailbox : Mailbox) : h.Reads (h.setMailbox r mailbox) r mailbox where
  numbered numbered := numbered.setMailbox r mailbox
  joined := h.joined_setMailbox r mailbox
  own := by simp [mailbox?_setMailbox, own]
  others r' other := by simp [mailbox?_setMailbox, Ne.symm other]

/-- What comes first is taken out of the mailbox. -/
theorem receive_of_mailbox {mailbox : Mailbox} (own : h.mailbox? r = some mailbox) :
    h.receive r = match mailbox.take? with
      | none => (none, h)
      | some (notice, rest) => (some notice, h.setMailbox r rest) := by
  unfold receive
  rw [unread_eq, own]
  rfl

/-- Where nothing is read the rooms stay as they are. -/
theorem receive_none (nothing : (h.receive r).1 = none) : (h.receive r).2 = h := by
  unfold receive at nothing ⊢
  split
  · rfl
  · rename_i notice rest first
    rw [first] at nothing
    cases nothing

/-- A receiver reads what comes first, and nothing but its mailbox changes. -/
theorem receive_eq (h : Hub) (r : Receiver) :
    (h.receive r).2 = h ∨ ∃ mailbox, (h.receive r).2 = h.setMailbox r mailbox := by
  unfold receive
  split
  · exact .inl rfl
  · exact .inr ⟨_, rfl⟩

/-- Who reads keeps its number. -/
@[simp] theorem numbersOf_receive (h : Hub) (r : Receiver) (d : Day) :
    (h.receive r).2.numbersOf d = h.numbersOf d := by
  rcases h.receive_eq r with same | ⟨mailbox, changed⟩
  · rw [same]
  · rw [changed, numbersOf_setMailbox]

/-- Who reads is given no other number. -/
@[simp] theorem joined_receive (h : Hub) (r : Receiver) : (h.receive r).2.joined = h.joined := by
  rcases h.receive_eq r with same | ⟨mailbox, changed⟩
  · rw [same]
  · rw [changed, joined_setMailbox]

/-- Who reads gives out no numbers. -/
theorem Numbered.receive (numbered : h.Numbered) (r : Receiver) : (h.receive r).2.Numbered :=
  numbered.mono (h.joined_receive r) fun d => by simp

/-- Someone else reads. -/
theorem mailbox?_receive (other : r' ≠ r) : (h.receive r').2.mailbox? r = h.mailbox? r := by
  rcases h.receive_eq r' with same | ⟨mailbox, changed⟩
  · rw [same]
  · have not_mine : ¬ (r.day = r'.day ∧ r.id = r'.id) := by
      rintro ⟨day, id⟩
      exact other (Receiver.eq_of day.symm id.symm)
    simp [changed, mailbox?_setMailbox, not_mine]

/-- **What is read first** of what is kept of some events. -/
theorem receive_keeping {unread : List RoomEvent}
    (own : h.mailbox? r = some (Mailbox.keeping unread)) :
    (h.receive r).1 = Notice.firstOf unread ∧
      (h.receive r).2.mailbox? r = some (Mailbox.keeping
        (match Notice.firstOf unread with
          | none => unread
          | some notice => unread.drop notice.size)) := by
  rw [receive_of_mailbox own, Mailbox.take?_keeping]
  cases Notice.firstOf unread with
  | none => exact ⟨rfl, own⟩
  | some notice => exact ⟨rfl, (reads_setMailbox own _).own⟩

end Hub
end Holdfast
