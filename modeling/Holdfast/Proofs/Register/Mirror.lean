import Holdfast.Proofs.Bookings
import Holdfast.Proofs.Register.Basic
import Holdfast.Proofs.Store.Written
import Holdfast.Reservation.Commit
import Holdfast.Reservation.World

/-!
# Worlds that mirror a register

A world mirrors a register if its store has the register's holds, live or not, its catalogue the
register's bookings, and if what else is stored can be trusted as far as it has to be
(`World.Mirrors`): the mark of a booking stands on booked slots only, and where a holder may hold
one slot only, its entry names the slot of its live hold, if it has one, with the hold's deadline.
An entry may be stale or missing otherwise.

So the slot that an entry leads to is the slot that a search of all holds finds (`another?_eq`).
The mirror survives the writes of an acquire, deletes of holds and of entries that lead nowhere,
marks on booked slots, bookings and evictions.
-/

namespace Holdfast.Reservation

/-- What a store has of a hold. -/
def Held.content (slot : SlotId) (h : Held) : String × Nat := ((h.record slot).encode, h.deadline)

/-- The slot that the live entry under a key names. -/
def World.names? (w : World) (key : String) : Option SlotId :=
  (w.store.read? w.clock key).bind SlotId.read?

/-- The world after the writes of a transaction. -/
def World.write (w : World) (writes : List Write) : World :=
  { w with store := writes.foldl (Store.apply w.clock) w.store }

/-- The store after the writes of a transaction. -/
theorem World.write_store (w : World) (writes : List Write) :
    (w.write writes).store = writes.foldl (Store.apply w.clock) w.store := rfl

/-- The slots that the catalogue knows. -/
def World.calendar (w : World) : Calendar := fun slot => (w.catalogue.get? slot).map (·.day)

/-- The register without holds that has the world's bookings. -/
def World.register (w : World) : Register :=
  { booked := fun slot => (w.catalogue.get? slot).any (·.booked)
    admission := w.admission
    clock := w.clock }

/-- **The world mirrors the register.** -/
structure World.Mirrors (policy : Policy) (calendar : Calendar) (w : World) (m : Register) :
    Prop where
  clock : w.clock = m.clock
  admission : w.admission = m.admission
  known : ∀ slot, w.catalogue.get? slot = (calendar slot).map fun day => ⟨slot, day, m.booked slot⟩
  holds : ∀ slot, (w.store.entries.get? (Key.hold slot)).map Entry.content =
    (m.holds.get? slot).map (Held.content slot)
  written : ∀ key e, w.store.entries.get? key = some e → Written key e.value
  /-- Only a booked slot has the mark of a booking. -/
  marked : ∀ slot e, w.store.entries.get? (Key.booked slot) = some e → m.booked slot = true
  /-- The entry of a holder names the slot of its live hold for as long as that is live. -/
  indexed : policy.singleHold = true → ∀ slot h, m.live? slot = some h →
    (w.store.entries.get? (Key.holder h.owner)).map Entry.content =
      some (SlotId.text slot, h.deadline)

namespace World.Mirrors

variable {policy : Policy} {calendar : Calendar} {w : World} {m : Register} {slot slot' : SlotId}
  {h h' : Held} {key : String}

/-- A world in which nothing is stored mirrors a register without holds. -/
theorem of_unused (unused : w.store.entries = .empty) :
    w.Mirrors policy w.calendar w.register := by
  refine ⟨rfl, rfl, ?_, ?_, ?_, ?_, ?_⟩
  · intro slot
    show w.catalogue.get? slot = ((w.catalogue.get? slot).map (·.day)).map fun day =>
      ⟨slot, day, (w.catalogue.get? slot).any (·.booked)⟩
    cases known : w.catalogue.get? slot with
    | none => rfl
    | some r =>
      obtain rfl : r.id = slot := w.catalogue.keyed slot r known
      rfl
  · intro slot
    rw [unused]
    rfl
  · intro key e there
    rw [unused] at there
    cases there
  · intro slot e there
    rw [unused] at there
    cases there
  · intro _ slot h live
    cases live

/-! ## What is found -/

section looking

variable (mirrors : w.Mirrors policy calendar m)

include mirrors

/-- The hold on a slot, if its deadline passes a test. -/
theorem filter_hold (slot : SlotId) (q : Nat → Bool) :
    ((w.store.entries.get? (Key.hold slot)).filter (q ·.deadline)).map Entry.content =
      ((m.holds.get? slot).filter (q ·.deadline)).map (Held.content slot) := by
  have same := mirrors.holds slot
  cases there : w.store.entries.get? (Key.hold slot) with
  | none =>
    rw [there, Option.map_none, eq_comm, Option.map_eq_none_iff] at same
    rw [same]
    rfl
  | some e =>
    rw [there, Option.map_some, eq_comm, Option.map_eq_some_iff] at same
    obtain ⟨h, kept, content⟩ := same
    rw [kept, Option.filter_some, Option.filter_some, (Prod.mk.inj content).2]
    split
    · exact congrArg some content.symm
    · rfl

/-- The live hold on a slot. -/
theorem live?_hold (slot : SlotId) :
    (w.store.live? w.clock (Key.hold slot)).map Entry.content =
      (m.live? slot).map (Held.content slot) := by
  unfold Store.live? Register.live?
  rw [← mirrors.clock]
  exact mirrors.filter_hold slot fun deadline => w.clock < deadline

/-- The text of the hold on a slot. -/
theorem read?_hold (slot : SlotId) :
    w.store.read? w.clock (Key.hold slot) = (m.live? slot).map fun h => (h.record slot).encode := by
  have := congrArg (Option.map Prod.fst) (mirrors.live?_hold slot)
  rwa [Option.map_map, Option.map_map] at this

/-- The time that the hold on a slot has left. -/
theorem remaining?_hold (slot : SlotId) :
    w.store.remaining? w.clock (Key.hold slot) =
      (m.live? slot).map fun h => h.deadline - m.clock := by
  have := congrArg (Option.map fun c => c.2 - m.clock) (mirrors.live?_hold slot)
  rw [Option.map_map, Option.map_map] at this
  rw [Store.remaining?, mirrors.clock]
  rwa [mirrors.clock] at this

/-- A slot that is not booked has no mark. -/
theorem read?_booked (free : m.booked slot = false) :
    w.store.read? w.clock (Key.booked slot) = none := by
  have missing : w.store.entries.get? (Key.booked slot) = none := by
    rw [Option.eq_none_iff_forall_ne_some]
    intro e there
    rw [mirrors.marked slot e there] at free
    cases free
  rw [Store.read?, Store.live?, missing]
  rfl

/-- The entry of a holder names the slot of its live hold. -/
theorem names?_holder (single : policy.singleHold = true) (live : m.live? slot = some h) :
    w.names? (Key.holder h.owner) = some slot := by
  obtain ⟨e, there, content⟩ := Option.map_eq_some_iff.1 (mirrors.indexed single slot h live)
  obtain ⟨value, deadline⟩ := Prod.mk.inj content
  have early : w.clock < e.deadline := by
    rw [deadline, mirrors.clock]
    exact (Register.live?_eq_some_iff.1 live).2
  rw [names?, Store.read?, Store.live?_eq_some_iff.2 ⟨there, early⟩, Option.map_some, value]
  exact SlotId.read?_text slot

/-- Where a holder may hold one slot only, it does. -/
theorem eq_of_same_owner (single : policy.singleHold = true) (live : m.live? slot = some h)
    (live' : m.live? slot' = some h') (same : h.owner = h'.owner) : slot = slot' := by
  have names := mirrors.names?_holder single live
  rw [same, mirrors.names?_holder single live'] at names
  exact (Option.some.inj names).symm

/-- **An entry leads to what a search finds**: the other slot that the holder's entry names, if
there is a live hold of the holder on it. -/
theorem another?_eq (single : policy.singleHold = true) (slot : SlotId) (holder : HolderId) :
    m.another? slot holder =
      ((w.names? (Key.holder holder)).filter (· ≠ slot)).bind fun other =>
        ((m.live? other).filter (·.owner = holder)).map (other, ·) := by
  cases found : m.another? slot holder with
  | some at_ =>
    obtain ⟨other, h⟩ := at_
    obtain ⟨ne, rfl, live⟩ := Register.of_another? found
    rw [mirrors.names?_holder single live]
    simp [Option.filter, ne, live]
  | none =>
    rw [eq_comm, Option.bind_eq_none_iff]
    intro other names
    rw [Option.map_eq_none_iff, Option.filter_eq_none_iff]
    intro h live owned
    obtain rfl := Register.eq_of_another?_eq_none found live (of_decide_eq_true owned)
    simp [Option.filter_eq_some_iff] at names

end looking

/-! ## What a mirror survives -/

section writing

variable (mirrors : w.Mirrors policy calendar m)

include mirrors

/-- Time goes on. -/
theorem wait (milliseconds : Nat) :
    { w with clock := w.clock + milliseconds }.Mirrors policy calendar
      { m with clock := m.clock + milliseconds } := by
  refine ⟨congrArg (· + milliseconds) mirrors.clock, mirrors.admission, mirrors.known,
    mirrors.holds, mirrors.written, mirrors.marked, ?_⟩
  intro single slot h live
  obtain ⟨there, early⟩ := Register.live?_eq_some_iff.1 live
  have earlier : m.clock < h.deadline := Nat.lt_of_le_of_lt (Nat.le_add_right _ _) early
  exact mirrors.indexed single slot h (Register.live?_eq_some_iff.2 ⟨there, earlier⟩)

/-- Other days can be held. -/
theorem regulate (a : Admission) :
    { w with admission := a }.Mirrors policy calendar { m with admission := a } :=
  ⟨mirrors.clock, rfl, mirrors.known, mirrors.holds, mirrors.written, mirrors.marked,
    mirrors.indexed⟩

/-- What is found in the catalogue. -/
theorem get?_of_known {day : Day} (known : calendar slot = some day) :
    w.catalogue.get? slot = some ⟨slot, day, m.booked slot⟩ := by
  rw [mirrors.known, known]
  rfl

/-- A slot is booked that is not booked yet. -/
theorem mark {day : Day} (known : calendar slot = some day) (free : m.booked slot = false) :
    (w.catalogue.book slot).1 = .ok () ∧
      { w with catalogue := (w.catalogue.book slot).2 }.Mirrors policy calendar (m.mark slot) := by
  have booked : w.catalogue.book slot = (.ok (), w.catalogue.insert ⟨slot, day, true⟩) := by
    rw [Catalogue.book, mirrors.get?_of_known known, free]
    rfl
  rw [booked]
  refine ⟨rfl, mirrors.clock, mirrors.admission, ?_, mirrors.holds, mirrors.written, ?_,
    mirrors.indexed⟩
  · intro slot'
    show (w.catalogue.insert ⟨slot, day, true⟩).get? slot' = _
    by_cases same : slot' = slot
    · subst same
      rw [known, Register.mark]
      simpa using w.catalogue.get?_insert_self ⟨slot', day, true⟩
    · rw [w.catalogue.get?_insert_ne same, mirrors.known, Register.mark]
      simp [same]
  · intro slot' e there
    show (decide (slot' = slot) || m.booked slot') = true
    rw [mirrors.marked slot' e there, Bool.or_true]

/-- The catalogue is asked to book a slot. -/
theorem book (slot : SlotId) :
    (w.catalogue.book slot).1 = (m.book calendar slot).1 ∧
      { w with catalogue := (w.catalogue.book slot).2 }.Mirrors policy calendar
        (m.book calendar slot).2 := by
  unfold Register.book
  cases known : calendar slot with
  | none =>
    have missing : w.catalogue.get? slot = none := by rw [mirrors.known, known]; rfl
    rw [Catalogue.book, missing]
    exact ⟨rfl, mirrors⟩
  | some day =>
    cases booked : m.booked slot with
    | false => exact mirrors.mark known booked
    | true =>
      rw [Catalogue.book, mirrors.get?_of_known known, booked]
      exact ⟨rfl, mirrors⟩

/-- A booked slot gets the mark of a booking. -/
theorem put_mark (booked : m.booked slot = true) (text : String) (ttl : Nat) :
    (w.write [.put (Key.booked slot) text ttl]).Mirrors policy calendar m := by
  have frame : ∀ {key}, key ≠ Key.booked slot →
      (w.write [.put (Key.booked slot) text ttl]).store.entries.get? key =
        w.store.entries.get? key := fun ne => w.store.entries.get?_insert_ne ne _
  refine ⟨mirrors.clock, mirrors.admission, mirrors.known, ?_, ?_, ?_, ?_⟩
  · intro slot'
    rw [frame (Key.hold_ne_booked slot' slot)]
    exact mirrors.holds slot'
  · intro key e there
    by_cases same : key = Key.booked slot
    · subst same
      exact .booked slot _
    · rw [frame same] at there
      exact mirrors.written key e there
  · intro slot' e there
    by_cases same : slot' = slot
    · subst same
      exact booked
    · rw [frame fun keys => same (Key.booked_inj keys)] at there
      exact mirrors.marked slot' e there
  · intro single slot' h live
    rw [frame (Key.booked_ne_holder slot h.owner).symm]
    exact mirrors.indexed single slot' h live

/-- The hold on a slot is taken away. -/
theorem drop (slot : SlotId) :
    (w.write [.delete (Key.hold slot)]).Mirrors policy calendar (m.drop slot) := by
  have frame : ∀ {key}, key ≠ Key.hold slot →
      (w.write [.delete (Key.hold slot)]).store.entries.get? key = w.store.entries.get? key :=
    fun ne => w.store.entries.get?_erase_ne ne
  refine ⟨mirrors.clock, mirrors.admission, mirrors.known, ?_, ?_, ?_, ?_⟩
  · intro slot'
    by_cases same : slot' = slot
    · subst same
      rw [write_store, List.foldl_cons, List.foldl_nil, Store.apply, Store.remove,
        SortedMap.get?_erase_self, Register.drop, SortedMap.get?_erase_self]
      rfl
    · rw [frame fun keys => same (Key.hold_inj keys), Register.drop, m.holds.get?_erase_ne same]
      exact mirrors.holds slot'
  · exact fun key e there => mirrors.written key e (Store.get?_of_remove there)
  · exact fun slot' e there => mirrors.marked slot' e (Store.get?_of_remove there)
  · intro single slot' h left
    rw [frame (Key.hold_ne_holder slot h.owner).symm]
    exact mirrors.indexed single slot' h (Register.live?_drop left).2

/-- Entries are taken away that name a slot without a live hold. -/
theorem forget {holder : HolderId} {session : Option SessionId} {stale : List String}
    (index : ∀ key ∈ stale, key ∈ indexKeys holder session)
    (names : ∀ key ∈ stale, w.names? key = some slot) (unheld : m.live? slot = none) :
    (w.write (stale.map .delete)).Mirrors policy calendar m := by
  have frame : ∀ {key}, key ∉ stale →
      (w.write (stale.map .delete)).store.entries.get? key = w.store.entries.get? key :=
    fun other => Store.get?_writes_ne (.deletes other)
  refine ⟨mirrors.clock, mirrors.admission, mirrors.known, ?_, ?_, ?_, ?_⟩
  · intro slot'
    rw [frame fun mem => hold_ne_of_index (index _ mem) rfl]
    exact mirrors.holds slot'
  · exact fun key e there => mirrors.written key e (Store.get?_of_deletes there)
  · exact fun slot' e there => mirrors.marked slot' e (Store.get?_of_deletes there)
  · intro single slot' h live
    rw [frame]
    · exact mirrors.indexed single slot' h live
    · intro mem
      have leads := names _ mem
      rw [mirrors.names?_holder single live] at leads
      rw [Option.some.inj leads, unheld] at live
      cases live

/-- **An acquire writes a hold** of a holder that, where this matters, has none on another slot. -/
theorem keep {ttl : Nat} (deadline : h.deadline = m.clock + ttl)
    (alone : policy.singleHold = true → ∀ slot' h', m.live? slot' = some h' →
      h'.owner = h.owner → slot' = slot) :
    (w.write (placing policy (h.record slot) slot h.owner ttl)).Mirrors policy calendar
      (m.keep slot h) := by
  refine ⟨mirrors.clock, mirrors.admission, mirrors.known, ?_, ?_, ?_, ?_⟩
  · intro slot'
    by_cases same : slot' = slot
    · subst same
      rw [write_store, get?_placing_hold, Register.keep, SortedMap.get?_insert_self,
        mirrors.clock, ← deadline]
      rfl
    · rw [write_store, Store.get?_writes_ne (misses_placing_hold (Ne.symm same)), Register.keep,
        m.holds.get?_insert_ne same]
      exact mirrors.holds slot'
  · intro key e there
    rcases Store.get?_of_writes there with before | ⟨ttl', puts, -⟩
    · exact mirrors.written key e before
    · exact written_of_placing puts
  · intro slot' e there
    rw [write_store, Store.get?_writes_ne misses_placing_booked] at there
    exact mirrors.marked slot' e there
  · intro single slot' h' kept
    rcases Register.live?_keep kept with ⟨rfl, rfl⟩ | ⟨other, live⟩
    · rw [write_store, get?_placing_holder single, mirrors.clock, ← deadline]
      rfl
    · have theirs : h.owner ≠ h'.owner := fun same => other (alone single slot' h' live same.symm)
      rw [write_store, Store.get?_writes_ne (misses_placing_holder theirs)]
      exact mirrors.indexed single slot' h' live

/-- What ran out is taken away. -/
theorem evict :
    { w with store := (w.store.evict w.clock).2 }.Mirrors policy calendar m.reap.2 := by
  have left : ∀ {key e}, (w.store.evict w.clock).2.entries.get? key = some e →
      w.store.entries.get? key = some e := by
    intro key e there
    rw [Store.evict, SortedMap.get?_filter, Option.filter_eq_some_iff] at there
    exact there.1
  refine ⟨mirrors.clock, mirrors.admission, mirrors.known, ?_, ?_, ?_, ?_⟩
  · intro slot
    rw [Store.evict, SortedMap.get?_filter, Register.reap, SortedMap.get?_filter]
    exact mirrors.live?_hold slot
  · exact fun key e there => mirrors.written key e (left there)
  · exact fun slot e there => mirrors.marked slot e (left there)
  · intro single slot h there
    have live := Register.live?_reap there
    obtain ⟨e, before, content⟩ := Option.map_eq_some_iff.1 (mirrors.indexed single slot h live)
    have early : e.isLive w.clock = true := by
      rw [Entry.isLive, decide_eq_true_iff, (Prod.mk.inj content).2, mirrors.clock]
      exact (Register.live?_eq_some_iff.1 live).2
    rw [Store.evict, SortedMap.get?_filter, before, Option.filter_some, if_pos early,
      Option.map_some, content]

end writing

end World.Mirrors
end Holdfast.Reservation
