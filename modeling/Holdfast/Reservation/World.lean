import Holdfast.Reservation.Program
import Holdfast.Room.Hub

/-!
# Worlds

What programs work on: the backends of one tenant, the time and the metrics. `World.perform` carries out
one effect, and `World.run` a whole program with nothing else going on.
-/

namespace Holdfast.Reservation

/-- The backends of a tenant: its holds, its catalogue, the days that can be held, and its rooms. -/
structure Backend where
  store : Store := {}
  catalogue : Catalogue := .empty
  admission : Admission := .closed
  rooms : Hub := {}

instance : Inhabited Backend := ⟨{}⟩

/-- A backend with the time, in milliseconds, and the metrics. -/
structure World extends Backend where
  clock : Nat := 0
  metrics : Metrics := {}

namespace World

/-- Carries out one effect of a backend that is in reach. -/
def perform (w : World) : (e : Effect) → e.Reply × World
  | .store r =>
    let (answer, store) := w.store.answer w.clock r
    (.ok answer, { w with store })
  | .slot id => (.ok (w.catalogue.get? id), w)
  | .slotsOn day => (.ok (w.catalogue.onDay day), w)
  | .book id =>
    let (reply, catalogue) := w.catalogue.book id
    (reply, { w with catalogue })
  | .admission => (w.admission, w)
  | .announce e => ((), { w with rooms := (w.rooms.emit e).2 })
  | .count m n => ((), { w with metrics := w.metrics.add m n })

/-- Runs a program from beginning to end. -/
def run {ε α : Type} (p : Program ε α) (w : World) : Except ε α × World :=
  (p.interpret (m := StateM World) fun e w => w.perform e) w

@[simp] theorem run_done {ε α : Type} (a : α) (w : World) :
    w.run (.done a : Program ε α) = (.ok a, w) := rfl

@[simp] theorem run_fail {ε α : Type} (e : ε) (w : World) :
    w.run (.fail e : Program ε α) = (.error e, w) := rfl

theorem run_bind {ε α β : Type} (p : Program ε α) (f : α → Program ε β) (w : World) :
    w.run (p.bind f) = match w.run p with
      | (.ok a, w') => w'.run (f a)
      | (.error e, w') => (.error e, w') := by
  induction p generalizing w with
  | done a => rfl
  | fail e => rfl
  | ask e next ih => exact ih (w.perform e).1 (w.perform e).2

theorem run_ask {ε α : Type} (e : Effect) (next : e.Reply → Program ε α) (w : World) :
    w.run (.ask e next) = (w.perform e).2.run (next (w.perform e).1) := rfl

end World
end Holdfast.Reservation
