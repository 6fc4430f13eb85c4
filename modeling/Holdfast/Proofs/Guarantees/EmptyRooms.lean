import Holdfast.Proofs.Guarantees.OneSubscription

/-!
# Empty rooms

A room that nobody is in stays if its last member left it: whether a client left the day, its
connection ended, or it joined and there was no snapshot for it. Only something that is told on the
day takes the room away then. So exactly the rooms that were deserted stand empty (`Hall.Deserts`).
-/

namespace Holdfast.Hall

open Reservation Socket

/-- **The rooms that stand empty**: nobody has a place there, somebody left, and since then nobody has
entered and nothing was told. -/
def Deserts (h : Hall) : Prop :=
  ∀ k d, (h.service.world k).rooms.Vacant d ↔
    (∀ n, h.tenant? n = some k → (h.places n).get? d = none) ∧ Mark.Deserted k d h.log

/-- The rooms that stand empty are those that the log tells of. -/
theorem Keeps.deserts {h : Hall} (keeps : h.Keeps) : h.Deserts := by
  intro k d
  have deserts : h.attendance.Deserts :=
    Attendance.deserts_empty.after Attendance.sound_empty keeps.valid
  have log : h.attendance.log = h.log := Attendance.log_after _ _
  have vacant := deserts k d
  rw [log, keeps.sound.nobody_iff] at vacant
  rw [keeps.shows.rooms]
  refine vacant.trans (and_congr_left fun _ => forall_congr' fun n => ?_)
  rw [keeps.tenant_eq, keeps.places_eq]

/-- **Whatever happens, the rooms that were deserted stand empty**, and no others. -/
theorem deserts_after (config : Config) (seeds : SortedMap String SeedFile) (permits : Nat)
    (turns : List Turn) : ((start config seeds permits).after turns).Deserts :=
  ((Keeps.start config seeds permits).after turns).deserts

/-- A client joins a day and leaves it. -/
def passing : List Turn :=
  [.connect "default" ⟨"a"⟩,
    .frame 0 (.text "\x7b\"event\":\"join_day\",\"data\":\x7b\"day\":\"2025-03-01\"\x7d\x7d"),
    .frame 0 (.text "\x7b\"event\":\"leave_day\",\"data\":\x7b\"day\":\"2025-03-01\"\x7d\x7d")]

/-- The room of the day is still there, and nobody is in it. -/
theorem empty_room_stays :
    ¬ ∀ (turns : List Turn) (k : String) (d : Day) (room : List Member),
      (((start {} .empty 1).after turns).service.world k).rooms.rooms.get? d = some room →
        room ≠ [] := by
  intro populated
  refine populated passing "default" Run.openingDay [] ?_ rfl
  decide +kernel

end Holdfast.Hall
