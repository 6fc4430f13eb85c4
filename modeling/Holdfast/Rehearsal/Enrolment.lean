import Holdfast.Reservation.Availability
import Holdfast.Tenancy

/-!
# Naming tenants by a script

A script that names tenants one after the other. The tenants that it gets are numbered in the order in
which it first gets them.
-/

namespace Holdfast.Rehearsal.Enrolment

open Reservation

/-- A step of the script. -/
inductive Step where
  | get (name : String)
  /-- Names a tenant by each of the names. -/
  | fill (names : List String)
  | status (name : String) (slot : SlotId)
  | isEmpty
  | unknown

/-- The answer to a step. -/
inductive Answer where
  | got (number size : Nat)
  | notGot (e : TenantError) (size : Nat)
  | filled (succeeded size : Nat)
  | status (r : Except Failure SlotStatus)
  | noTenant (e : TenantError)
  | isEmpty (b : Bool)
  | unknownStep

/-- The tenants, and the keys of those that the script got so far. -/
structure Stage where
  registry : Registry
  seen : List String := []

namespace Stage

/-- Names a tenant. -/
def name (n : String) : StateM Stage (Except TenantError String) := fun s =>
  let (r, registry) := s.registry.getOrLoad 0 n
  (r, { s with registry })

/-- The number of tenants. -/
def size : StateM Stage Nat := do return (← get).registry.size

/-- How many of the names lead to a tenant. -/
def fill : List String → StateM Stage Nat
  | [] => return 0
  | n :: rest => do
    let r ← name n
    let more ← fill rest
    return if r.toBool then more + 1 else more

/-- Takes a step. -/
def step : Step → StateM Stage Answer
  | .get n => do
    match ← name n with
    | .error e => return .notGot e (← size)
    | .ok key =>
      modify fun s => { s with seen := if s.seen.contains key then s.seen else s.seen ++ [key] }
      return .got ((← get).seen.idxOf key) (← size)
  | .fill names => do
    let succeeded ← fill names
    return .filled succeeded (← size)
  | .status n slot => do
    match ← name n with
    | .error e => return .noTenant e
    | .ok key =>
      let w : World := { toBackend := (← get).registry.backend key }
      return .status (w.run (status slot)).1
  | .isEmpty => return .isEmpty ((← size) = 0)
  | .unknown => return .unknownStep

/-- Takes all steps. -/
def run (s : Stage) (steps : List Step) : List Answer := (steps.mapM step s).1

end Stage
end Holdfast.Rehearsal.Enrolment
