import Holdfast.Text.Decimal

/-!
# Metrics

What is counted and gauged, with the name that each is published under.
-/

namespace Holdfast

/-- An operation whose transactions can be retried. -/
inductive Operation where
  | acquire
  | release
  | commit
  deriving DecidableEq

/-- The name of an operation. -/
def Operation.name : Operation → String
  | acquire => "acquire"
  | release => "release"
  | commit => "commit"

/-- Something that is counted or gauged. -/
inductive Metric where
  /-- Requests served, by the route's pattern and the status. -/
  | requests (route : String) (status : Nat)
  /-- Holds acquired, new or renewed. -/
  | holdsAcquired (renewed : Bool)
  /-- Holds refused, by reason. -/
  | holdConflicts (reason : String)
  /-- Calls of release, by outcome. -/
  | holdsReleased (outcome : String)
  /-- Holds that became bookings. -/
  | holdsCommitted
  /-- Transactions aborted and tried again. -/
  | retries (op : Operation)
  /-- Expired holds announced. -/
  | holdsReaped
  /-- Stored texts that could not be decoded. -/
  | decodeFailures
  /-- Live sessions. -/
  | sessionsActive
  /-- Sessions accepted. -/
  | sessionsTotal
  /-- Sessions refused for want of a permit. -/
  | sessionsRejected
  /-- Spectators that fell behind and got a snapshot instead. -/
  | roomLagged
  /-- Tenants loaded. -/
  | tenantsActive
  /-- Requests without good credentials. -/
  | authFailures
  deriving DecidableEq

namespace Metric

/-- A name with its labels in order. -/
def labelled (name : String) (labels : List (String × String)) : String :=
  name ++ "\x7b" ++ ",".intercalate (labels.map fun (label, value) => label ++ "=" ++ value) ++ "\x7d"

/-- The published name. -/
def text : Metric → String
  | requests route status =>
    labelled "slothold_requests_total" [("route", route), ("status", Text.Decimal.text status)]
  | holdsAcquired renewed =>
    labelled "slothold_holds_acquired_total" [("kind", if renewed then "renewed" else "new")]
  | holdConflicts reason => labelled "slothold_hold_conflicts_total" [("reason", reason)]
  | holdsReleased outcome => labelled "slothold_holds_released_total" [("outcome", outcome)]
  | holdsCommitted => "slothold_holds_committed_total"
  | retries op => labelled "slothold_txn_retries_total" [("op", op.name)]
  | holdsReaped => "slothold_holds_reaped_total"
  | decodeFailures => "slothold_decode_failures_total"
  | sessionsActive => "slothold_sessions_active"
  | sessionsTotal => "slothold_sessions_total"
  | sessionsRejected => "slothold_sessions_rejected_total"
  | roomLagged => "slothold_room_lagged_total"
  | tenantsActive => "slothold_tenants_active"
  | authFailures => "slothold_auth_failures_total"

end Metric

/-- The metrics touched so far, in the order of their first touch. -/
structure Metrics where
  values : List (Metric × Int) := []

namespace Metrics

instance : Inhabited Metrics := ⟨{}⟩

/-- Changes one value of a list, which starts at zero. -/
def change (m : Metric) (f : Int → Int) : List (Metric × Int) → List (Metric × Int)
  | [] => [(m, f 0)]
  | (m', n) :: rest => if m' = m then (m, f n) :: rest else (m', n) :: change m f rest

/-- Adds to a counter or gauge. -/
def add (ms : Metrics) (m : Metric) (n : Int) : Metrics := ⟨change m (· + n) ms.values⟩

/-- Sets a gauge. -/
def set (ms : Metrics) (m : Metric) (n : Int) : Metrics := ⟨change m (fun _ => n) ms.values⟩

end Metrics
end Holdfast
