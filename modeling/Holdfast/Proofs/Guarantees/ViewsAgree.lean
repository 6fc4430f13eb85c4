import Holdfast.Proofs.Guarantees.ConnectionHold
import Holdfast.Proofs.Register.Listing
import Holdfast.Proofs.Register.Episodes

/-!
# What can be had, seen three ways

After any history in which one thing happens after the other, the listing of holds, the status of each
slot and the snapshot of each day tell the same (`World.views_agree`). The listing goes over the store
in the order of the keys and trusts the stored holds for their slots and days; the others go by the
catalogue, in the order of the slots, and look up one hold at a time.

A slot can be booked past all holds while there is a live hold on it. Then the listing still has a row
for the hold, its status is that of a booked slot, and a snapshot shows it as booked.

The invariant is that the world mirrors a register each hold of which has the day of its slot.
-/

namespace Holdfast.Reservation

/-- Has the slot the status of a booked one? -/
def World.showsBooked (w : World) (slot : SlotId) : Bool :=
  match (w.run (status slot)).1 with
  | .ok .booked => true
  | _ => false

/-- **The three views agree** with these rows as the listing. -/
structure World.Agree (w : World) (rows : List HoldRow) : Prop where
  sorted : rows.Pairwise (·.slot < ·.slot)
  /-- There is a row for each slot with a live hold, and for no other one. -/
  held : ∀ slot, slot ∈ rows.map (·.slot) ↔ (w.hold? slot).isSome = true
  /-- The row of a slot that is not booked says what its status says. -/
  status : ∀ row ∈ rows, w.showsBooked row.slot = false →
    ∃ ttl, w.run (status row.slot) = (.ok (.held row.owner ttl), w) ∧ row.ttl = secondsUp ttl
  /-- A snapshot shows the booked slots of its day, and its rows that are not booked. -/
  snapshot : ∀ day, ∃ shot, w.run (snapshot day) = (.ok shot, w) ∧ shot.day = day ∧
    shot.booked.Pairwise (· < ·) ∧
    (∀ slot, slot ∈ shot.booked ↔
      (w.catalogue.get? slot).map (·.day) = some day ∧ w.showsBooked slot = true) ∧
    shot.held.Pairwise (·.slot < ·.slot) ∧
    shot.held = (rows.filter fun row => row.day = day ∧ w.showsBooked row.slot = false).map
      fun row => { slot := row.slot, ttl := row.ttl }

namespace World.Mirrors

variable {policy : Policy} {calendar : Calendar} {w : World} {m : Register}
  (mirrors : w.Mirrors policy calendar m)

include mirrors

/-- A slot that there is has the status of a booked one if it is booked. -/
theorem showsBooked_eq {slot : SlotId} {day : Day} (known : calendar slot = some day) :
    w.showsBooked slot = m.booked slot := by
  unfold showsBooked
  rw [mirrors.run_status slot, Register.status_eq known]
  unfold Register.statusAt
  cases m.booked slot with
  | true => rfl
  | false => cases m.live? slot <;> rfl

/-- Where each live hold has the day of its slot, a snapshot shows the rows of its day that are not
booked. -/
theorem held_shot (known : ∀ {slot h}, m.live? slot = some h → calendar slot = some h.day)
    (day : Day) :
    (m.shot day ((w.catalogue.onDay day).map (·.id))).held =
      (m.rows.filter fun row => row.day = day ∧ w.showsBooked row.slot = false).map
        fun row => { slot := row.slot, ttl := row.ttl } := by
  have held := Register.sorted_held_shot (m := m) (w.catalogue.sorted_onDay day) day
  refine KeyOrder.eq_of_sorted held (List.pairwise_map.2 (m.sorted_rows.filter _)) fun shown => ?_
  simp only [Register.shot, List.mem_filterMap, List.mem_map, List.mem_filter,
    Register.heldSlot?_eq_some_iff, mirrors.mem_ids_onDay, decide_eq_true_eq]
  constructor
  · rintro ⟨slot, onDay, free, h, live, rfl⟩
    rw [known live] at onDay
    have shows := mirrors.showsBooked_eq (known live)
    exact ⟨h.row m.clock slot, ⟨Register.mem_rows.2 ⟨h, live, rfl⟩, Option.some.inj onDay,
      shows.trans free⟩, rfl⟩
  · rintro ⟨row, ⟨listed, rfl, free⟩, rfl⟩
    obtain ⟨h, live, same⟩ := Register.mem_rows.1 listed
    rw [mirrors.showsBooked_eq (known live)] at free
    refine ⟨row.slot, ?_, free, h, live, ?_⟩
    · rw [known live, same]
      rfl
    · exact congrArg (HeldSlot.mk row.slot) (congrArg HoldRow.ttl same).symm

/-- **In a world that mirrors a register** each hold of which has the day of its slot, the views
agree. -/
theorem agree (dated : ∀ slot h, m.holds.get? slot = some h → calendar slot = some h.day) :
    w.Agree m.rows := by
  have known : ∀ {slot h}, m.live? slot = some h → calendar slot = some h.day :=
    fun live => dated _ _ (Register.live?_eq_some_iff.1 live).1
  refine ⟨m.sorted_rows, fun slot => ?_, fun row listed free => ?_, fun day => ?_⟩
  · rw [mirrors.hold?_eq, Option.isSome_map, List.mem_map]
    constructor
    · rintro ⟨row, listed, rfl⟩
      obtain ⟨h, live, -⟩ := Register.mem_rows.1 listed
      rw [live]
      rfl
    · intro held
      obtain ⟨h, live⟩ := Option.isSome_iff_exists.1 held
      exact ⟨h.row m.clock slot, Register.mem_rows.2 ⟨h, live, rfl⟩, rfl⟩
  · obtain ⟨h, live, same⟩ := Register.mem_rows.1 listed
    rw [mirrors.showsBooked_eq (known live)] at free
    refine ⟨h.deadline - m.clock, ?_, congrArg HoldRow.ttl same⟩
    have owner : row.owner = h.owner := congrArg HoldRow.owner same
    rw [mirrors.run_status, Register.status_eq (known live), Register.statusAt, free, live, owner]
    rfl
  · have ids := w.catalogue.sorted_onDay day
    have held := Register.sorted_held_shot (m := m) ids day
    refine ⟨_, mirrors.run_snapshot_eq day, rfl, ids.filter _, fun slot => ?_, held,
      mirrors.held_shot known day⟩
    show slot ∈ List.filter _ _ ↔ w.calendar slot = some day ∧ _
    rw [List.mem_filter, mirrors.mem_ids_onDay, mirrors.calendar_eq]
    exact and_congr_right fun onDay => by rw [mirrors.showsBooked_eq onDay]

end World.Mirrors

/-- **The views of what can be had agree after every history** in which one thing happens after the
other, of calls, bookings past all holds, passes over what ran out and time that goes by, if the slots
stay the same. -/
theorem World.views_agree (policy : Policy) {start : World} (unused : start.store.entries = .empty)
    {history : List Episode} (keeps : ∀ t ∈ history, t.KeepsSlots) :
    ∃ rows metrics, (start.episodes policy history).2.run listHolds =
        (.ok rows, { (start.episodes policy history).2 with metrics }) ∧
      (start.episodes policy history).2.Agree rows := by
  obtain ⟨m, mirrors, dated⟩ : ∃ m : Register,
      (start.episodes policy history).2.Mirrors policy start.calendar m ∧
        ∀ slot h, m.holds.get? slot = some h → start.calendar slot = some h.day := by
    refine exists_register unused keeps fun t _ m dated slot h stems => ?_
    cases stems with
    | kept there => exact dated slot h there
    | renewed claims there own deadline =>
      have before := dated slot _ there
      exact before
    | new claims known deadline => exact known
  obtain ⟨metrics, run⟩ := mirrors.run_listHolds
  exact ⟨m.rows, metrics, run, mirrors.agree dated⟩

/-- Three holders have holds on slots that are in another order by their keys, and one of the slots is
booked past its hold. -/
def outbidding : List Episode :=
  [.call (.acquire 10 { holder := ⟨"a"⟩ } 5000), .call (.acquire 2 { holder := ⟨"b"⟩ } 2500),
    .call (.acquireForSession 3 ⟨"c"⟩ 1), .outside (.wait 1000), .outside (.book 3)]

/-- The world after that. -/
def World.outbid : World := ((World.offering Run.openingDay [2, 3, 10]).episodes {} outbidding).2

/-- The listing has all three of them, and the slot that is booked shows so. -/
theorem World.views_outbid :
    (World.offering Run.openingDay [2, 3, 10]).store.entries = .empty ∧
      (∀ t ∈ outbidding, t.KeepsSlots) ∧
      ∃ rows metrics, outbid.run listHolds = (.ok rows, { outbid with metrics }) ∧
        outbid.Agree rows ∧ (∀ slot ∈ [2, 3, 10], slot ∈ rows.map (·.slot)) ∧
        outbid.showsBooked 3 = true := by
  have unused : (World.offering Run.openingDay [2, 3, 10]).store.entries = .empty := rfl
  have keeps : ∀ t ∈ outbidding, t.KeepsSlots := by simp [outbidding, Episode.KeepsSlots]
  obtain ⟨rows, metrics, run, agree⟩ := World.views_agree {} unused keeps
  have held : [2, 3, 10].all (fun slot => (outbid.hold? slot).isSome) = true := by decide +kernel
  have booked : outbid.showsBooked 3 = true := by decide +kernel
  refine ⟨unused, keeps, rows, metrics, run, agree, fun slot mem => ?_, booked⟩
  exact (agree.held slot).2 (List.all_eq_true.1 held slot mem)

end Holdfast.Reservation
