import Holdfast.Service.Basic

/-!
# Draining connections

When the service is told to stop, it waits for its connections to give back their permits. It looks at
regular intervals, from the signal on, and gives up at a deadline. Then the work in the background
stops too.
-/

namespace Holdfast

namespace Drain

/-- The time between two looks, in milliseconds. -/
def interval : Nat := 100

/-- How long the service waits at most, in milliseconds. -/
def timeout : Nat := 10000

/-- When permits come back that are asked for at the start and held for some time each, as far as there
are permits. -/
def returns (permits : Nat) (heldFor : List Nat) : List Nat := heldFor.take permits

/-- Are all permits back by the look at `now`? A permit that comes back at the instant of a later look
is seen by the next one only; what comes back with the signal is seen at once. -/
def isDrained (signal now : Nat) (returns : List Nat) : Bool :=
  returns.all fun r => r < now || (now = signal && r = now)

/-- When the service stops, from the look at `now` on, with so many looks left before the deadline. -/
def stopFrom (signal now : Nat) (returns : List Nat) : Nat → Nat
  | 0 => signal + timeout
  | looks + 1 =>
    if isDrained signal now returns then now
    else stopFrom signal (now + interval) returns looks

/-- When the service stops after a signal. -/
def stop (permits : Nat) (heldFor : List Nat) (signal : Nat) : Nat :=
  stopFrom signal signal (returns permits heldFor) (timeout / interval)

end Drain

/-- Lets the service run, with nobody connected, until a signal stops it. Permits are asked for at
the start and held for the given times. -/
def Service.serve (s : Service) (heldFor : List Nat) (signal : Nat) : Service :=
  { s with
    clock := Drain.stop s.permits heldFor signal
    isShutDown := true
    isReaping := false }

end Holdfast
