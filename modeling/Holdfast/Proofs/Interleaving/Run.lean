import Holdfast.Proofs.Store.Versions
import Holdfast.Reservation.Availability
import Holdfast.Reservation.Commit
import Holdfast.Reservation.Connection
import Holdfast.Reservation.Expiry
import Holdfast.Reservation.World

/-!
# Runs of many calls

Any number of calls work on one world. A schedule says move by move what happens: a call begins, a
call that waits for an effect has it carried out, a backend fails it or aborts its transaction, time
passes, or someone outside changes the catalogue, the days that can be held or the rooms. Nobody
outside writes to the store. Each effect is one move, so whatever the schedule puts between two
effects of a call happens between them.

* `System.next` carries out one move; a move that does not fit (a call that waits for nothing, a
  fault of another backend) changes nothing.
* `Run` is a schedule with the world it starts from. A schedule goes on forever; one that is over
  waits for no time at all.
* `Run.Holds`, `Run.Unheld`, `Run.Names`: what the store of a state says of a slot.
* `Run.Performs` and `Run.Hears`: a call's effect is carried out, a call goes on with a reply; the
  two differ when a backend fails.
-/

namespace Holdfast.Reservation

/-- The effect that a program waits for. -/
def Program.pending? {ε α : Type} : Program ε α → Option Effect
  | .ask e _ => some e
  | _ => none

/-- A call, with what it is called with. -/
inductive Call where
  | acquire (slot : SlotId) (claimant : Claimant) (ttl : Nat)
  | release (slot : SlotId) (claimant : Claimant)
  | commit (slot : SlotId) (claimant : Claimant)
  | acquireForSession (slot : SlotId) (holder : HolderId) (session : SessionId)
  | endSession (holder : HolderId) (session : SessionId)
  | sessionSlot (session : SessionId)
  | status (slot : SlotId)
  | listHolds
  | snapshot (day : Day)
  | reap
  deriving DecidableEq

/-- What a call answers. -/
inductive Answer where
  | acquire (o : AcquireOutcome)
  | release (o : ReleaseOutcome)
  | commit (o : CommitOutcome)
  | endSession (o : Option ReleaseOutcome)
  | sessionSlot (slot : Option SlotId)
  | status (s : SlotStatus)
  | listHolds (rows : List HoldRow)
  | snapshot (s : DaySnapshot)
  | reap (r : Except StoreError Nat)

/-- What a call does. -/
def Call.program (policy : Policy) : Call → Program Failure Answer
  | acquire slot claimant ttl => do return .acquire (← acquireFor policy slot claimant ttl)
  | release slot claimant => do return .release (← Reservation.release policy slot claimant)
  | commit slot claimant => do return .commit (← Reservation.commit policy slot claimant)
  | acquireForSession slot holder session => do
    return .acquire (← Reservation.acquireForSession policy slot holder session)
  | endSession holder session => do
    return .endSession (← Reservation.endSession policy holder session)
  | sessionSlot session => do return .sessionSlot (← Reservation.sessionSlot session)
  | status slot => do return .status (← Reservation.status slot)
  | listHolds => do return .listHolds (← Reservation.listHolds)
  | snapshot day => do return .snapshot (← Reservation.snapshot day)
  | reap => do return .reap (← Reservation.reap.attempt)

/-- A call that has begun. -/
structure Running where
  call : Call
  /-- The time at which it began. -/
  begun : Nat
  /-- What is left of it to do. -/
  rest : Program Failure Answer

/-- A world with the calls that have begun so far; a call keeps its place when it is over. -/
structure System where
  world : World
  calls : List Running := []

/-- What keeps an effect from being carried out. -/
inductive Fault where
  /-- A transaction is aborted though nothing that it watched has changed. -/
  | abort
  | store (reason : String)
  | catalogue (e : CatalogueError)

/-- The reply to an effect that is not carried out, if it can fail that way. -/
def Fault.reply? (fault : Fault) : (e : Effect) → Option e.Reply
  | .store (.exec _ _) =>
    match fault with
    | abort => some (.ok .aborted)
    | store reason => some (.error reason)
    | catalogue _ => none
  | .store _ =>
    match fault with
    | store reason => some (.error reason)
    | _ => none
  | .slot _ =>
    match fault with
    | catalogue e => some (.error e)
    | _ => none
  | .slotsOn _ =>
    match fault with
    | catalogue e => some (.error e)
    | _ => none
  | .book _ =>
    match fault with
    | catalogue e => some (.error e)
    | _ => none
  | .admission => none
  | .announce _ => none
  | .count _ _ => none

/-- What a schedule lets happen next. -/
inductive Move where
  | begin (c : Call)
  /-- The effect that a call waits for is carried out. -/
  | proceed (i : Nat)
  /-- The effect that a call waits for fails and is not carried out. -/
  | fail (i : Nat) (fault : Fault)
  | wait (milliseconds : Nat)
  | regulate (a : Admission)
  | insert (r : SlotRecord)
  | book (slot : SlotId)
  | rooms (h : Hub)

/-- What a move changes that is no call's. -/
def World.drift (w : World) : Move → World
  | .wait milliseconds => { w with clock := w.clock + milliseconds }
  | .regulate a => { w with admission := a }
  | .insert r => { w with catalogue := w.catalogue.insert r }
  | .book slot => { w with catalogue := (w.catalogue.book slot).2 }
  | .rooms h => { w with rooms := h }
  | _ => w

namespace System

/-- The effect that a call waits for. -/
def pending (σ : System) (i : Nat) : Option Effect := σ.calls[i]?.bind (·.rest.pending?)

/-- Lets a call that waits for an effect go on with a reply, and the world with what came of it. -/
def resume (σ : System) (i : Nat) (reply? : (e : Effect) → Option (e.Reply × World)) : System :=
  match σ.calls[i]? with
  | some ⟨call, begun, .ask e next⟩ =>
    match reply? e with
    | some (reply, world) => { world, calls := σ.calls.set i ⟨call, begun, next reply⟩ }
    | none => σ
  | _ => σ

/-- Carries out a move. -/
def next (policy : Policy) (σ : System) : Move → System
  | .begin c => { σ with calls := σ.calls ++ [⟨c, σ.world.clock, c.program policy⟩] }
  | .proceed i => σ.resume i fun e => some (σ.world.perform e)
  | .fail i fault => σ.resume i fun e => (fault.reply? e).map (·, σ.world)
  | move => { σ with world := σ.world.drift move }

end System

/-- **A run**: a schedule, and the world that it starts from, in which nothing was ever stored. -/
structure Run where
  policy : Policy
  start : World
  unused : start.store = {}
  moves : Nat → Move

/-- A world in which some slots of one day can be held. -/
def World.offering (day : Day) (slots : List SlotId) : World :=
  { catalogue := .ofList (slots.map fun slot => ⟨slot, day, false⟩)
    admission := .days (.ofDays [day]) }

namespace Run

/-- The run of a schedule that comes to an end. -/
def playing (policy : Policy) (start : World) (unused : start.store = {}) (schedule : List Move) :
    Run :=
  { policy, start, unused, moves := fun n => schedule.getD n (.wait 0) }

/-- A day on which slots are offered. -/
def openingDay : Day := ⟨2025, 3, 1, by decide⟩

/-- The run of a schedule in a world that offers slots on that day. -/
def offering (slots : List SlotId) (schedule : List Move) : Run :=
  playing {} (.offering openingDay slots) rfl schedule

variable (ρ : Run)

/-- The state after so many moves. -/
def state : Nat → System
  | 0 => { world := ρ.start }
  | n + 1 => (state n).next ρ.policy (ρ.moves n)

/-- The world after so many moves. -/
def world (n : Nat) : World := (ρ.state n).world

/-- The store after so many moves. -/
def store (n : Nat) : Store := (ρ.world n).store

/-- The time after so many moves. -/
def clock (n : Nat) : Nat := (ρ.world n).clock

/-- The catalogue after so many moves. -/
def catalogue (n : Nat) : Catalogue := (ρ.world n).catalogue

/-- The live entry under a key after so many moves. -/
def live? (n : Nat) (key : String) : Option Entry := (ρ.store n).live? (ρ.clock n) key

/-- The live text under a key after so many moves. -/
def read? (n : Nat) (key : String) : Option String := (ρ.store n).read? (ρ.clock n) key

/-- There is no live hold on the slot. -/
def Unheld (n : Nat) (slot : SlotId) : Prop := ρ.read? n (Key.hold slot) = none

/-- The live hold on the slot. -/
def Holds (n : Nat) (slot : SlotId) (hold : HoldRecord) : Prop :=
  (ρ.read? n (Key.hold slot)).bind HoldRecord.decode? = some hold

/-- The live entry under a key names the slot. -/
def Names (n : Nat) (key : String) (slot : SlotId) : Prop :=
  (ρ.read? n key).bind SlotId.read? = some slot

/-- The call that began as the `i`-th, if it has begun by now. -/
def call? (n i : Nat) : Option Call := (ρ.state n).calls[i]?.map (·.call)

/-- The next move carries out an effect for a call. -/
def Performs (n i : Nat) (e : Effect) : Prop :=
  ρ.moves n = .proceed i ∧ (ρ.state n).pending i = some e

/-- With the next move a call goes on with a reply to the effect that it waits for. -/
def Hears (n i : Nat) (e : Effect) (reply : e.Reply) : Prop :=
  (ρ.state n).pending i = some e ∧
    (ρ.moves n = .proceed i ∧ reply = ((ρ.world n).perform e).1 ∨
      ∃ fault, ρ.moves n = .fail i fault ∧ fault.reply? e = some reply)

/-- The next move commits a transaction of a call. -/
def Commits (n i : Nat) (w : Watch) (writes : List Write) : Prop :=
  ρ.Performs n i (.store (.exec w writes)) ∧ (ρ.store n).agrees (ρ.clock n) w = true

/-- The next move begins a call, as the `i`-th. -/
def Begins (n i : Nat) (c : Call) : Prop := ρ.moves n = .begin c ∧ (ρ.state n).calls.length = i

/-- A call is over by now and gave an answer. -/
def Returned (n i : Nat) (answer : Answer) : Prop :=
  ∃ r, (ρ.state n).calls[i]? = some r ∧ r.rest = .done answer

/-! ## Reading live entries -/

section reading

variable {ρ} {n : Nat}

/-- Nothing is read where nothing is live. -/
theorem read?_eq_none_iff {key : String} : ρ.read? n key = none ↔ ρ.live? n key = none :=
  Option.map_eq_none_iff

/-- A live hold is a live entry that can be read. -/
theorem holds_iff_live {slot : SlotId} {hold : HoldRecord} : ρ.Holds n slot hold ↔
    ∃ e, ρ.live? n (Key.hold slot) = some e ∧ HoldRecord.decode? e.value = some hold := by
  rw [Holds, Option.bind_eq_some_iff]
  constructor
  · rintro ⟨text, there, decoded⟩
    obtain ⟨e, live, rfl⟩ := Option.map_eq_some_iff.1 there
    exact ⟨e, live, decoded⟩
  · rintro ⟨e, live, decoded⟩
    exact ⟨e.value, Option.map_eq_some_iff.2 ⟨e, live, rfl⟩, decoded⟩

/-- A slot with a live hold is not without one. -/
theorem not_unheld_of_holds {slot : SlotId} {hold : HoldRecord} (held : ρ.Holds n slot hold) :
    ¬ ρ.Unheld n slot := by
  intro unheld
  rw [Holds, unheld] at held
  cases held

end reading

end Run
end Holdfast.Reservation
