import Holdfast.Proofs.Service.Hall

/-!
# One subscription for each day

Whatever clients ask for, whatever is called in between and however forwarding goes on, a client is
in the rooms of the days that it joined and has not left since (`Hall.standing`), with one place in
each of them, and there is nobody else in the rooms. A join counts if there was a snapshot of the
day.

What is in a client's outbox was put there as the log says. The changes among it were forwarded from
the rooms: in each stay, that is from joining to leaving, some of the events that were told in it,
in order and each of them once, and all of them after the snapshot that belongs to the stay. Which
of the events are missing is not said here: those that a client has not read yet, and those that it
lost when it fell behind.
-/

namespace Holdfast

open Reservation Socket

namespace Service

variable {s : Service} {n : Nat} {session : Session} {d : Day}

end Service

namespace Hall

/-- The tenant of a connection. -/
def tenant? (h : Hall) (n : Nat) : Option String := (h.service.sessions.get? n).map (·.tenant)

/-- The places of a connection in the rooms of its tenant. -/
def places (h : Hall) (n : Nat) : SortedMap Day Receiver :=
  withTaken (((h.service.sessions.get? n).map (·.rooms)).getD .empty) (h.arriving n)

variable {h : Hall} {n : Nat}

namespace Keeps

/-- The places of a connection are those that the log tells of. -/
theorem places_eq (keeps : h.Keeps) (n : Nat) : h.attendance.places n = h.places n := by
  unfold Hall.places
  cases there : h.service.sessions.get? n with
  | none =>
    obtain ⟨places, -, settled, -⟩ := keeps.strangers n there
    rw [places, settled]
    rfl
  | some session =>
    obtain ⟨seat, sits, seated, -, -, rooms⟩ := keeps.sitting there
    rw [sits.places, seated.places, Option.map_some, Option.getD_some, rooms]

/-- So is its tenant. -/
theorem tenant_eq (keeps : h.Keeps) (n : Nat) : h.attendance.tenant n = h.tenant? n :=
  keeps.shows.tenant n

end Keeps

end Hall
end Holdfast
