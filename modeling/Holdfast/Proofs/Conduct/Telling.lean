import Holdfast.Proofs.Conduct.Course
import Holdfast.Proofs.Room.Mailbox

/-!
# What a program announces

`World.tells` lists what a program announces when it runs alone, event by event. The rooms are told all
of it (`rooms_run`), and it is what the program has heard itself announce (`ends_tells`). So what is
known of the announcements of a program in any company is known of them when it runs alone.
-/

namespace Holdfast.Reservation.World

open Program

variable {ε ε' α β : Type} {w w' : World} {p : Program ε α}

/-- **What a program announces** when it runs alone, in order. -/
def tells {ε α : Type} (w : World) : Program ε α → List RoomEvent
  | .done _ => []
  | .fail _ => []
  | .ask e next =>
    (Heard.event? ⟨e, (w.perform e).1⟩).toList ++ (w.perform e).2.tells (next (w.perform e).1)

/-- The rooms are told all of it, and nothing else. -/
theorem rooms_run (p : Program ε α) (w : World) :
    (w.run p).2.rooms = w.rooms.emitAll (w.tells p) := by
  induction p generalizing w with
  | done a => rfl
  | fail e => rfl
  | ask e next ih =>
    rw [run_ask, ih, tells]
    cases e <;> rfl

/-- It is what the program has heard itself announce. -/
theorem ends_tells (p : Program ε α) (w : World) :
    ∃ t, p.Ends t (w.run p).1 ∧ events t = w.tells p := by
  induction p generalizing w with
  | done a => exact ⟨[], rfl, rfl⟩
  | fail e => exact ⟨[], rfl, rfl⟩
  | ask e next ih =>
    obtain ⟨t, ends, told⟩ := ih (w.perform e).1 (w.perform e).2
    refine ⟨⟨e, (w.perform e).1⟩ :: t, ends_ask.2 ⟨_, t, rfl, ends⟩, ?_⟩
    rw [tells, ← told]
    cases e <;> rfl

/-- Looks and transactions announce nothing. -/
theorem tells_of_tries (tries : p.Tries) (w : World) : w.tells p = [] := by
  obtain ⟨t, ends, told⟩ := ends_tells p w
  rw [← told, events_eq_nil (tries.ends ends)]

/-- One after the other. -/
theorem tells_seq {f : α → Program ε β} {a : α} (first : w.run p = (.ok a, w')) :
    w.tells (p >>= f) = w.tells p ++ w'.tells (f a) := by
  induction p generalizing w with
  | done b =>
    obtain ⟨same, rfl⟩ := Prod.mk.inj first
    obtain rfl := Except.ok.inj same
    rfl
  | fail e => cases first
  | ask e next ih =>
    have later := ih (w.perform e).1 (w := (w.perform e).2) first
    show _ ++ tells _ (next _ >>= f) = _
    rw [later, ← List.append_assoc]
    rfl

/-- After a failure nothing is announced. -/
theorem tells_seq_error {f : α → Program ε β} {e : ε} (first : w.run p = (.error e, w')) :
    w.tells (p >>= f) = w.tells p := by
  induction p generalizing w with
  | done b => cases first
  | fail e => rfl
  | ask e next ih =>
    have later := ih (w.perform e).1 (w := (w.perform e).2) first
    show _ ++ tells _ (next _ >>= f) = _
    rw [later]
    rfl

/-- A program whose error is a value announces what the program does. -/
theorem tells_attempt (p : Program ε α) (w : World) :
    w.tells (p.attempt : Program ε' (Except ε α)) = w.tells p := by
  induction p generalizing w with
  | done a => rfl
  | fail e => rfl
  | ask e next ih => exact congrArg (_ ++ ·) (ih (w.perform e).1 (w.perform e).2)

end Holdfast.Reservation.World
