import Holdfast.Proofs.Register.Basic
import Holdfast.Proofs.Room.View

/-!
# How the slots of a register look

A slot is booked, or there is a hold on it, or it is free. A hold that ran out is still there until
it is taken away: by it the slot looks held to whoever goes by what was told (`Register.label`), and
free to whoever looks (`Register.seen`).

`Register.Tells` relates a register, what is announced, and the register that is left: how a slot
looks after the last announcement about it is how it does look, and a slot without an announcement
is as it was. Each change of a register has an announcement that fits it.
-/

namespace Holdfast.Reservation.Register

/-- How a slot looks by what was told. -/
def label (m : Register) (slot : SlotId) : Label :=
  if m.booked slot then .booked else if (m.holds.get? slot).isSome then .held else .free

/-- How a slot looks to whoever looks. -/
def seen (m : Register) (slot : SlotId) : Label :=
  if m.booked slot then .booked else if (m.live? slot).isSome then .held else .free

/-- There is no hold on a booked slot, and a hold says the day of its slot. -/
structure Sound (calendar : Calendar) (m : Register) : Prop where
  unheld : ∀ slot, m.booked slot = true → m.holds.get? slot = none
  day : ∀ slot h, m.holds.get? slot = some h → calendar slot = some h.day

/-- **What was told is what was done.** -/
structure Tells (calendar : Calendar) (m : Register) (es : List RoomEvent) (m' : Register) :
    Prop where
  sound : m'.Sound calendar
  clock : m'.clock = m.clock
  day : ∀ e ∈ es, calendar e.slot = some e.day
  told : ∀ slot label, told? es slot = some label → m'.label slot = label
  untold : ∀ slot, told? es slot = none →
    m'.holds.get? slot = m.holds.get? slot ∧ m'.booked slot = m.booked slot

/-- The label is how the slot looks, one way or the other. -/
def Shows (m : Register) (slot : SlotId) (label : Label) : Prop :=
  label = m.label slot ∨ label = m.seen slot

variable {calendar : Calendar} {m m' m'' : Register} {slot : SlotId} {h : Held} {day : Day}
  {es es' : List RoomEvent} {label : Label}

/-- A register without holds is sound. -/
theorem Sound.of_unheld (unheld : m.holds = .empty) : m.Sound calendar := by
  refine ⟨fun slot _ => ?_, fun slot h there => ?_⟩ <;> simp_all

/-- A slot with a hold is not booked. -/
theorem Sound.free (sound : m.Sound calendar) (there : m.holds.get? slot = some h) :
    m.booked slot = false := by
  cases booked : m.booked slot with
  | false => rfl
  | true =>
    rw [sound.unheld slot booked] at there
    cases there

/-! ## Telling -/

namespace Tells

/-- Nothing is done, and nothing told. -/
theorem silent (sound : m.Sound calendar) : m.Tells calendar [] m :=
  ⟨sound, rfl, by simp, by simp, fun _ _ => ⟨rfl, rfl⟩⟩

/-- One after the other. -/
theorem trans (first : m.Tells calendar es m') (second : m'.Tells calendar es' m'') :
    m.Tells calendar (es ++ es') m'' := by
  refine ⟨second.sound, second.clock.trans first.clock, ?_, fun slot label told => ?_,
    fun slot told => ?_⟩
  · exact List.forall_mem_append.2 ⟨first.day, second.day⟩
  · rw [told?_append] at told
    cases last : told? es' slot with
    | some label' =>
      rw [last] at told
      rw [second.told slot label' last]
      exact Option.some.inj told
    | none =>
      rw [last] at told
      obtain ⟨holds, booked⟩ := second.untold slot last
      rw [Register.label, holds, booked]
      exact first.told slot label told
  · rw [told?_append, Option.or_eq_none_iff] at told
    obtain ⟨holds, booked⟩ := second.untold slot told.1
    obtain ⟨holds', booked'⟩ := first.untold slot told.2
    exact ⟨holds.trans holds', booked.trans booked'⟩

/-- A change of one slot that is told of. -/
theorem single {e : RoomEvent} (sound : m'.Sound calendar) (clock : m'.clock = m.clock)
    (day : calendar e.slot = some e.day) (told : m'.label e.slot = e.label)
    (others : ∀ slot, slot ≠ e.slot →
      m'.holds.get? slot = m.holds.get? slot ∧ m'.booked slot = m.booked slot) :
    m.Tells calendar [e] m' := by
  refine ⟨sound, clock, ?_, fun slot label tells => ?_, fun slot silent => ?_⟩
  · rintro e' mem
    rw [List.mem_singleton.1 mem]
    exact day
  · obtain ⟨e', mem, rfl, rfl⟩ := exists_of_told? tells
    rw [List.mem_singleton.1 mem]
    exact told
  · exact others slot (told?_eq_none_iff.1 silent e List.mem_cons_self).symm

/-- A hold is kept on a slot that is not booked. -/
theorem keep (sound : m.Sound calendar) (free : m.booked slot = false)
    (known : calendar slot = some h.day) (ttl : UInt64) :
    m.Tells calendar [.held slot h.day ttl] (m.keep slot h) := by
  have others : ∀ slot', slot' ≠ slot → (m.keep slot h).holds.get? slot' = m.holds.get? slot' :=
    fun slot' ne => m.holds.get?_insert_ne ne h
  have self : (m.keep slot h).holds.get? slot = some h := m.holds.get?_insert_self slot h
  refine single ⟨fun slot' booked => ?_, fun slot' h' there => ?_⟩ rfl known ?_
    fun slot' ne => ⟨others slot' ne, rfl⟩
  · have ne : slot' ≠ slot := by
      rintro rfl
      rw [show (m.keep slot' h).booked slot' = m.booked slot' from rfl, free] at booked
      cases booked
    rw [others slot' ne]
    exact sound.unheld slot' booked
  · by_cases same : slot' = slot
    · subst same
      rw [self] at there
      exact Option.some.inj there ▸ known
    · rw [others slot' same] at there
      exact sound.day slot' h' there
  · show (m.keep slot h).label slot = .held
    rw [Register.label, self, show (m.keep slot h).booked slot = false from free]
    rfl

/-- What is not dropped stays. -/
theorem get?_drop_ne {slot' : SlotId} (ne : slot' ≠ slot) :
    (m.drop slot).holds.get? slot' = m.holds.get? slot' := m.holds.get?_erase_ne ne

/-- A dropped hold is gone. -/
theorem get?_drop_self : (m.drop slot).holds.get? slot = none := m.holds.get?_erase_self slot

/-- Dropping a hold leaves a register sound. -/
theorem sound_drop (sound : m.Sound calendar) : (m.drop slot).Sound calendar := by
  refine ⟨fun slot' booked => ?_, fun slot' h' there => ?_⟩
  · by_cases same : slot' = slot
    · subst same
      exact get?_drop_self
    · rw [get?_drop_ne same]
      exact sound.unheld slot' booked
  · by_cases same : slot' = slot
    · subst same
      rw [get?_drop_self] at there
      cases there
    · rw [get?_drop_ne same] at there
      exact sound.day slot' h' there

/-- A hold is dropped. -/
theorem drop (sound : m.Sound calendar) (there : m.holds.get? slot = some h) :
    m.Tells calendar [.released slot h.day] (m.drop slot) := by
  refine single (sound_drop sound) rfl (sound.day slot h there) ?_
    fun slot' ne => ⟨get?_drop_ne ne, rfl⟩
  show (m.drop slot).label slot = .free
  rw [Register.label, get?_drop_self, show (m.drop slot).booked slot = false from sound.free there]
  rfl

/-- A slot is booked, and the hold on it dropped. -/
theorem book (sound : m.Sound calendar) (known : calendar slot = some day) :
    m.Tells calendar [.booked slot day] ((m.mark slot).drop slot) := by
  have booked : ∀ slot', ((m.mark slot).drop slot).booked slot' =
      (decide (slot' = slot) || m.booked slot') := fun _ => rfl
  refine single ⟨fun slot' isBooked => ?_, (sound_drop sound).day⟩ rfl known ?_
    fun slot' ne => ⟨get?_drop_ne ne, ?_⟩
  · by_cases same : slot' = slot
    · subst same
      exact get?_drop_self
    · rw [booked, decide_eq_false same, Bool.false_or] at isBooked
      exact (sound_drop sound).unheld slot' isBooked
  · show ((m.mark slot).drop slot).label slot = .booked
    simp [Register.label, booked]
  · have other : slot' ≠ slot := ne
    rw [booked, decide_eq_false other, Bool.false_or]

/-- What ran out is dropped, and each hold of it is told of. -/
theorem reap (sound : m.Sound calendar)
    (each : ∀ e ∈ es, ∃ h, m.holds.get? e.slot = some h ∧ h.isLive m.clock = false ∧
      e = .released e.slot h.day)
    (all : ∀ slot h, m.holds.get? slot = some h → h.isLive m.clock = false →
      ∃ e ∈ es, e.slot = slot) :
    m.Tells calendar es m.reap.2 := by
  have left : ∀ slot, m.reap.2.holds.get? slot = (m.holds.get? slot).filter (·.isLive m.clock) :=
    fun slot => m.holds.get?_filter _ slot
  refine ⟨⟨fun slot booked => ?_, fun slot h there => ?_⟩, rfl, fun e mem => ?_,
    fun slot label told => ?_, fun slot silent => ⟨?_, rfl⟩⟩
  · rw [left, sound.unheld slot booked]
    rfl
  · rw [left, Option.filter_eq_some_iff] at there
    exact sound.day slot h there.1
  · obtain ⟨h, there, -, same⟩ := each e mem
    rw [same]
    exact sound.day e.slot h there
  · obtain ⟨e, mem, rfl, rfl⟩ := exists_of_told? told
    obtain ⟨h, there, out, same⟩ := each e mem
    rw [Register.label, left, there, Option.filter_some, out,
      show m.reap.2.booked e.slot = false from sound.free there, same]
    rfl
  · rw [left]
    cases there : m.holds.get? slot with
    | none => rfl
    | some h =>
      cases live : h.isLive m.clock with
      | true => rw [Option.filter_some, if_pos live]
      | false =>
        obtain ⟨e, mem, about⟩ := all slot h there live
        exact absurd about (told?_eq_none_iff.1 silent e mem)

end Tells

/-! ## Looking -/

/-- A slot that nothing happens to goes on looking as it did, while time passes. -/
theorem Shows.of_same (shown : m.Shows slot label)
    (holds : m'.holds.get? slot = m.holds.get? slot) (booked : m'.booked slot = m.booked slot)
    (later : m.clock ≤ m'.clock) : m'.Shows slot label := by
  have same : m'.label slot = m.label slot := by rw [Register.label, holds, booked, Register.label]
  rcases shown with rfl | rfl
  · exact .inl same.symm
  · rw [Shows, same]
    unfold Register.seen Register.label Register.live?
    rw [holds, booked]
    cases m.booked slot with
    | true => exact .inl rfl
    | false =>
      cases m.holds.get? slot with
      | none => exact .inl rfl
      | some h =>
        -- A live hold that runs out is still there.
        by_cases live : m.clock < h.deadline
        · exact .inl (by simp [Held.isLive, live])
        · have out : ¬ m'.clock < h.deadline := by omega
          exact .inr (by simp [Held.isLive, live, out])

/-- After a pass over what ran out, a slot looks the same one way and the other. -/
theorem label_reap : m.reap.2.label slot = m.reap.2.seen slot := by
  have live : m.reap.2.live? slot = m.reap.2.holds.get? slot := by
    unfold live?
    rw [show m.reap.2.holds.get? slot = _ from m.holds.get?_filter _ slot, Option.filter_filter]
    simp [reap]
  rw [label, seen, live]

end Holdfast.Reservation.Register
