/-!
# Routes

Which resource a path names. A path is matched as it is sent; what stands for a slot or a day is
decoded later.
-/

namespace Holdfast.Http

/-- A resource. -/
inductive Route where
  | health
  | hold
  | release
  | commit
  | holds
  | status (slot : String)
  | snapshot (day : String)
  | socket
  | unmatched
  deriving DecidableEq

namespace Route

/-- The resource that a path names. -/
def ofPath (path : String) : Route :=
  match path.splitOn "/" with
  | ["", "healthz"] => health
  | ["", "slots", "hold"] => hold
  | ["", "slots", "release"] => release
  | ["", "slots", "commit"] => commit
  | ["", "slots", "holds"] => holds
  | ["", "slots", slot, "status"] => status slot
  | ["", "days", day, "snapshot"] => snapshot day
  | ["", "ws"] => socket
  | _ => unmatched

/-- The pattern of a resource's paths. -/
def pattern : Route → String
  | health => "/healthz"
  | hold => "/slots/hold"
  | release => "/slots/release"
  | commit => "/slots/commit"
  | holds => "/slots/holds"
  | status _ => "/slots/:id/status"
  | snapshot _ => "/days/:day/snapshot"
  | socket => "/ws"
  | unmatched => "unmatched"

/-- Does a resource take requests with the method? -/
def takes (method : String) : Route → Bool
  | hold => method = "POST"
  | release => method = "POST"
  | commit => method = "POST"
  | unmatched => true
  | _ => method = "GET" || method = "HEAD"

end Route
end Holdfast.Http
