import Holdfast.Reservation.Program
import Holdfast.Store.Key
import Holdfast.Store.Value

/-!
# Announcing expired holds

Nobody is told when a hold runs out. A pass over the store takes away what has expired and announces
the holds among it.
-/

namespace Holdfast.Reservation

open Program

/-- Announces the holds among some evicted entries, and says how many there were with those before.
What cannot be decoded is counted and skipped. -/
def announceExpired (before : Nat) : List (String × String) → Program StoreError Nat
  | [] => return before
  | (key, text) :: rest => do
    if Key.isHold key then
      match HoldRecord.stored key text with
      | .error _ =>
        perform (.count .decodeFailures 1)
        announceExpired before rest
      | .ok hold =>
        perform (.announce (.released hold.slot hold.day))
        announceExpired (before + 1) rest
    else announceExpired before rest

/-- One pass. -/
def reap : Program StoreError Nat := do
  let evicted ← (perform (.store .evict)).bind (orFail .unavailable)
  let reaped ← announceExpired 0 evicted
  perform (.count .holdsReaped reaped)
  return reaped

end Holdfast.Reservation
