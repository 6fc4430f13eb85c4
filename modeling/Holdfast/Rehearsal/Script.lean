import Holdfast.Reservation.Outcome
import Holdfast.Room.Event
import Holdfast.Store.Transaction

/-!
# Scripts

A script is a list of steps to take with one reservation engine: its operations, the time, its backends
and its rooms. A step can also set a hook, which interferes with a later call that the engine makes to a
backend: the call fails, a transaction is aborted, or further steps run right before or after it. So a
script can put any operation between two calls of another one.
-/

namespace Holdfast.Rehearsal

open Reservation

/-- A kind of backend call that hooks can interfere with. -/
inductive Point where
  | tryCreate
  | read
  | refresh
  | delete
  | remaining
  | scan
  | watch
  | exec
  | evict
  | slot
  | slotsOn
  | book
  /-- A point that no call passes. -/
  | nowhere
  deriving DecidableEq

mutual

/-- A step of a script. -/
inductive Step where
  | acquire (slot : SlotId) (claimant : Claimant) (ttl : Option Nat)
  | release (slot : SlotId) (claimant : Claimant)
  | commit (slot : SlotId) (claimant : Claimant)
  | status (slot : SlotId)
  | listHolds
  | snapshot (day : Day)
  | acquireForSession (slot : SlotId) (holder : HolderId) (session : SessionId)
  | sessionSlot (session : SessionId)
  | endSession (holder : HolderId) (session : SessionId)
  | reap
  | policy
  | advance (milliseconds : Nat)
  | insertSlot (record : Option SlotRecord)
  | markBooked (slot : SlotId)
  | getSlot (slot : SlotId)
  | setAdmission (days : Option (List Day))
  /-- Interferes with the calls at a point, with a given key if one is given: lets some pass, then
  fires so many times. -/
  | hook (point : Point) (key : Option String) (skip times : Nat) (interference : Interference)
  | unhook
  | join (name : String) (day : Day)
  | leave (name : String)
  | receive (name : String)
  | prune (day : Day)
  | rooms (day : Day)
  | emit (event : Option RoomEvent) (times : Nat)
  | tryCreate (key value : String) (ttl : Nat)
  | read (key : String)
  | refresh (key value : String) (ttl : Nat)
  | delete (key : String)
  | remaining (key : String)
  | scan (start : String) (cursor : Option String) (count : Nat)
  | evict
  | watch (name : String) (keys : List String) (merge : Bool)
  | exec (watch : String) (writes : List Write)
  | readHold (slot : SlotId)
  | readIndex (key : String)
  | dump
  | metrics
  | unknown

/-- What a hook does to a call. -/
inductive Interference where
  /-- The call fails without being made. -/
  | fail (reason : String)
  /-- A transaction is aborted without being tried. -/
  | abort
  /-- Steps run before the call, or after it. -/
  | run (steps : List Step) (after : Bool)

end

instance : Inhabited Step := ⟨.unknown⟩

instance : Inhabited Interference := ⟨.abort⟩

/-- A hook that is set. -/
structure Hook where
  point : Point
  key : Option String
  skip : Nat
  times : Nat
  interference : Interference

/-! ## How often hooks can fire -/

mutual

/-- How often the hooks that a step can set can fire in all, if the step is taken once. -/
def Step.firings : Step → Nat
  | .hook _ _ _ times interference => (times + 1) * (interference.firings + 1)
  | _ => 0
termination_by structural s => s

/-- How often the hooks set by an interference can fire. -/
def Interference.firings : Interference → Nat
  | .run steps _ => firingsOf steps
  | _ => 0
termination_by structural i => i

/-- How often the hooks set by some steps can fire. -/
def firingsOf : List Step → Nat
  | [] => 0
  | s :: rest => s.firings + firingsOf rest
termination_by structural ss => ss

end

end Holdfast.Rehearsal
