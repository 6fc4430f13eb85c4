import Holdfast.Catalogue
import Holdfast.Metric
import Holdfast.Room.Event
import Holdfast.Store.Request

/-!
# Programs over a backend

An operation on reservations is a program: a tree that asks for one effect after another and goes on
with the reply. Each effect happens at one instant, and anything may happen between two of them; so
the same program can be run alone, run among others, or run against a backend that fails.

`Program.interpret` runs a program with a handler of effects in any monad.
-/

namespace Holdfast.Reservation

/-- Something that a program asks for. -/
inductive Effect where
  | store (r : Store.Request)
  /-- What the catalogue knows of a slot. -/
  | slot (id : SlotId)
  /-- The slots of a day. -/
  | slotsOn (day : Day)
  /-- Book a slot in the catalogue. -/
  | book (id : SlotId)
  /-- Which days can be held. -/
  | admission
  /-- Tell a day's room. -/
  | announce (e : RoomEvent)
  /-- Add to a counter. -/
  | count (m : Metric) (n : Nat)
  deriving DecidableEq

/-- What an effect is replied with. A store or a catalogue may be out of reach. -/
def Effect.Reply : Effect → Type
  | .store r => Except String r.Answer
  | .slot _ => Except CatalogueError (Option SlotRecord)
  | .slotsOn _ => Except CatalogueError (List SlotRecord)
  | .book _ => Except CatalogueError Unit
  | .admission => Admission
  | .announce _ => Unit
  | .count .. => Unit

/-- A program that ends with a value or fails with an error. -/
inductive Program (ε α : Type) : Type where
  | done (a : α)
  | fail (e : ε)
  | ask (e : Effect) (next : e.Reply → Program ε α)

namespace Program

variable {ε ε' α β γ : Type}

/-- Goes on with a program's value. -/
def bind (p : Program ε α) (f : α → Program ε β) : Program ε β :=
  match p with
  | done a => f a
  | fail e => fail e
  | ask e next => ask e fun r => (next r).bind f

instance : Monad (Program ε) where
  pure := done
  bind := bind

/-- The program with its error as a value, for whoever can do without. -/
def attempt (p : Program ε α) : Program ε' (Except ε α) :=
  match p with
  | done a => done (.ok a)
  | fail e => done (.error e)
  | ask e next => ask e fun r => (next r).attempt

/-- Asks for one effect. -/
def perform (e : Effect) : Program ε e.Reply := ask e done

/-- Goes on with a value, or fails with what `f` makes of an error. -/
def orFail (f : ε' → ε) : Except ε' α → Program ε α
  | .ok a => done a
  | .error e => fail (f e)

@[simp] theorem bind_done (p : Program ε α) : p.bind done = p := by
  induction p with
  | done a => rfl
  | fail e => rfl
  | ask e next ih => simp only [bind, ih]

theorem bind_assoc (p : Program ε α) (f : α → Program ε β) (g : β → Program ε γ) :
    (p.bind f).bind g = p.bind fun a => (f a).bind g := by
  induction p with
  | done a => rfl
  | fail e => rfl
  | ask e next ih => simp only [bind, ih]

instance : LawfulMonad (Program ε) :=
  LawfulMonad.mk' (Program ε) bind_done (fun _ _ => rfl) bind_assoc

/-- Runs a program with a handler of effects. -/
def interpret {m : Type → Type} [Monad m] (handle : (e : Effect) → m e.Reply) :
    Program ε α → m (Except ε α)
  | done a => pure (.ok a)
  | fail e => pure (.error e)
  | ask e next => handle e >>= fun r => (next r).interpret handle

end Program
end Holdfast.Reservation
