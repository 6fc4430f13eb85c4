import Holdfast.Proofs.Catalogue
import Holdfast.Proofs.Register.Answers
import Holdfast.Proofs.Register.Labels

/-!
# What a snapshot shows

A snapshot of a day, taken in a world that mirrors a register, shows of every slot of the day how it
looks in the register (`run_snapshot`).
-/

namespace Holdfast
namespace Reservation

namespace Register

variable {calendar : Calendar} {m : Register} {slot : SlotId} {day : Day}

/-- The status of a slot that there is. -/
def statusAt (m : Register) (slot : SlotId) : SlotStatus :=
  if m.booked slot then .booked
  else
    match m.live? slot with
    | none => .free
    | some h => .held h.owner (h.deadline - m.clock)

/-- A slot that there is has that status. -/
theorem status_eq (known : calendar slot = some day) :
    m.status calendar slot = .ok (m.statusAt slot) := by
  unfold status statusAt
  rw [known]
  cases m.booked slot with
  | true => rfl
  | false => cases m.live? slot <;> rfl

/-- How a snapshot shows a slot that is held and not booked. -/
def heldSlot? (m : Register) (slot : SlotId) : Option HeldSlot :=
  if m.booked slot then none
  else (m.live? slot).map fun h => ⟨slot, secondsUp (h.deadline - m.clock)⟩

/-- A snapshot shows a slot as held if it is not booked and there is a live hold on it. -/
theorem heldSlot?_eq_some_iff {shown : HeldSlot} : m.heldSlot? slot = some shown ↔
    m.booked slot = false ∧
      ∃ h, m.live? slot = some h ∧ ⟨slot, secondsUp (h.deadline - m.clock)⟩ = shown := by
  unfold heldSlot?
  cases m.booked slot <;> simp

/-- What a snapshot shows of some slots. -/
def shot (m : Register) (day : Day) (slots : List SlotId) : DaySnapshot :=
  { day, booked := slots.filter (m.booked ·), held := slots.filterMap m.heldSlot? }

/-- A snapshot shows held slots in the order in which it is given them. -/
theorem sorted_held_shot {slots : List SlotId} (sorted : slots.Pairwise (· < ·)) (day : Day) :
    (m.shot day slots).held.Pairwise (·.slot < ·.slot) := by
  refine List.pairwise_filterMap.2 (sorted.imp ?_)
  intro slot slot' lt shown shows shown' shows'
  obtain ⟨-, h, -, rfl⟩ := heldSlot?_eq_some_iff.1 shows
  obtain ⟨-, h', -, rfl⟩ := heldSlot?_eq_some_iff.1 shows'
  exact lt

/-- A snapshot shows how the slots look that it is about. -/
theorem label_shot {slots : List SlotId} (listed : slot ∈ slots) (day : Day) :
    (m.shot day slots).label slot = m.seen slot := by
  unfold DaySnapshot.label shot seen
  cases booked : m.booked slot with
  | true => simp [listed, booked]
  | false =>
    have held : slot ∈ (slots.filterMap m.heldSlot?).map (·.slot) ↔ (m.live? slot).isSome := by
      simp only [List.mem_map, List.mem_filterMap, heldSlot?_eq_some_iff]
      constructor
      · rintro ⟨-, ⟨slot', -, -, h, live, rfl⟩, rfl⟩
        exact Option.isSome_of_eq_some live
      · intro held
        obtain ⟨h, live⟩ := Option.isSome_iff_exists.1 held
        exact ⟨_, ⟨slot, listed, booked, h, live, rfl⟩, rfl⟩
    simp [booked, held]

end Register

namespace World.Mirrors

variable {policy : Policy} {calendar : Calendar} {w : World} {m : Register}
  (mirrors : w.Mirrors policy calendar m)

include mirrors

/-- The calendar is that of the catalogue. -/
theorem calendar_eq : w.calendar = calendar := by
  funext slot
  rw [World.calendar, mirrors.known, Option.map_map]
  exact congrFun Option.map_id _

/-- The status of a slot with the record that the catalogue has. -/
theorem run_statusOf {r : SlotRecord} (known : w.catalogue.get? r.id = some r) :
    w.run (statusOf r) = (.ok (m.statusAt r.id), w) := by
  have found : calendar r.id = some r.day ∧ r = ⟨r.id, r.day, m.booked r.id⟩ := by
    rw [mirrors.known, Option.map_eq_some_iff] at known
    obtain ⟨day, known, same⟩ := known
    rw [← same]
    exact ⟨known, rfl⟩
  have looked := mirrors.run_status r.id
  unfold Reservation.status at looked
  rwa [run_seq (mirrors.run_find found.1), Register.status_eq found.1, ← found.2] at looked

/-- The statuses of some slots are added one by one. -/
theorem run_addSlots {slots : List SlotRecord}
    (known : ∀ r ∈ slots, w.catalogue.get? r.id = some r) (s : DaySnapshot) :
    w.run (addSlots s slots) = (.ok { s with
      booked := s.booked ++ (slots.map (·.id)).filter (m.booked ·)
      held := s.held ++ (slots.map (·.id)).filterMap m.heldSlot? }, w) := by
  induction slots generalizing s with
  | nil => simp only [List.map_nil, List.filter_nil, List.filterMap_nil, List.append_nil]; rfl
  | cons r rest ih =>
    obtain ⟨first, others⟩ := List.forall_mem_cons.1 known
    unfold addSlots
    rw [run_seq (mirrors.run_statusOf first), ih others]
    unfold Register.statusAt
    cases booked : m.booked r.id with
    | true => simp [addStatus, booked, Register.heldSlot?]
    | false =>
      cases live : m.live? r.id with
      | none => simp [addStatus, booked, live, Register.heldSlot?]
      | some h => simp [addStatus, booked, live, Register.heldSlot?]

/-- **A snapshot shows the slots of its day.** -/
theorem run_snapshot_eq (day : Day) :
    w.run (snapshot day) = (.ok (m.shot day ((w.catalogue.onDay day).map (·.id))), w) := by
  have slots : w.run ((Program.perform (.slotsOn day)).bind (Program.orFail Failure.ofCatalogue)) =
      (.ok (w.catalogue.onDay day), w) := rfl
  unfold snapshot
  rw [run_seq slots, mirrors.run_addSlots fun r mem => (Catalogue.mem_onDay.1 mem).1]
  rfl

/-- A slot is among those of its day. -/
theorem mem_ids_onDay {day : Day} {slot : SlotId} :
    slot ∈ (w.catalogue.onDay day).map (·.id) ↔ calendar slot = some day := by
  rw [List.mem_map]
  constructor
  · rintro ⟨r, mem, rfl⟩
    obtain ⟨known, same⟩ := Catalogue.mem_onDay.1 mem
    rw [mirrors.known, Option.map_eq_some_iff] at known
    obtain ⟨day', known, record⟩ := known
    rw [known, ← same, ← record]
  · intro known
    exact ⟨⟨slot, day, m.booked slot⟩,
      Catalogue.mem_onDay.2 ⟨mirrors.get?_of_known known, rfl⟩, rfl⟩

/-- **A snapshot shows how the slots of its day look.** -/
theorem run_snapshot (day : Day) :
    ∃ shot, w.run (snapshot day) = (.ok shot, w) ∧
      ∀ slot, calendar slot = some day → shot.label slot = m.seen slot :=
  ⟨_, mirrors.run_snapshot_eq day,
    fun _ known => Register.label_shot (mirrors.mem_ids_onDay.2 known) day⟩

end World.Mirrors
end Reservation
end Holdfast
