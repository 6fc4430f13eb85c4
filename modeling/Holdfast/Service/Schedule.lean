import Holdfast.Reservation.Expiry
import Holdfast.Service.Connection

/-!
# Work in the background

Every tenant gets a pass for expired holds when it is loaded and then at regular intervals. A pass is
over before anything that it announced is forwarded.
-/

namespace Holdfast.Service

open Reservation

/-- The tenant whose pass is due first, if one is due by `time`. -/
def nextDue? (s : Service) (time : Nat) : Option (String × Nat) :=
  s.registry.tenants.toList.foldl (fun best (key, t) =>
    if t.nextPass ≤ time && best.all (t.nextPass < ·.2) then some (key, t.nextPass) else best) none

/-- Makes a tenant's pass, and sets the time for the next one. -/
def pass (key : String) (due : Nat) : Action Unit := do
  let _ ← runFor key reap
  modify fun s =>
    match s.registry.tenants.get? key with
    | some t =>
      { s with
        registry :=
          { s.registry with
            tenants := s.registry.tenants.insert key
              { t with nextPass := due + s.config.reaperInterval } } }
    | none => s
  forward

/-- How many passes can be due by `time`, at the most. -/
def maxPasses (s : Service) (time : Nat) : Nat :=
  s.registry.tenants.toList.foldl (fun n (_, t) => n + (time + 1 - t.nextPass)) 0

/-- Makes the passes that are due by `time`, one after the other, each at its time. -/
def passesUntil (time : Nat) : Nat → Action Unit
  | 0 => return ()
  | fuel + 1 => do
    let s ← get
    if s.isReaping then
      if let some (key, due) := s.nextDue? time then
        modify fun s => { s with clock := max s.clock due }
        pass key due
        passesUntil time fuel

/-- Does everything that can be done without time going on. -/
def settle : Action Unit := do
  let s ← get
  passesUntil s.clock (s.maxPasses s.clock)
  forward

/-- Lets time go on. -/
def sleep (milliseconds : Nat) : Action Unit := do
  let s ← get
  let time := s.clock + milliseconds
  passesUntil time (s.maxPasses time)
  modify fun s => { s with clock := time }

end Holdfast.Service
