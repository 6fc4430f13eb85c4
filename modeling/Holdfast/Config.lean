import Holdfast.Reservation.Outcome
import Holdfast.Text.Blank
import Holdfast.Text.Decimal

/-!
# Configuration

Settings are read from named texts. A text that does not say what it should is passed over for the
default. White space around numbers and truth values does not count.
-/

namespace Holdfast

/-- The settings of the service. -/
structure Config where
  bind : String := "0.0.0.0"
  port : Nat := 8080
  /-- How long a hold lasts, in seconds. -/
  holdTtl : Nat := 120
  singleHold : Bool := true
  /-- How many connections may be live at once. -/
  maxConnections : Nat := 256
  token : String := "slothold"
  /-- Where the seeds of the tenants are. -/
  dataDir : String := "./data"
  /-- The time between two passes for expired holds, in milliseconds. -/
  reaperInterval : Nat := 5000
  metricsPort : Option Nat := none
  deriving DecidableEq

namespace Config

/-- The longest time that a hold may last, in seconds. -/
def maxHoldTtl : Nat := 3600

/-- A number below a bound. -/
def number? (bound : Nat) (s : String) : Option Nat :=
  Text.Decimal.readBelow? bound (Text.trimBlank s.toList)

/-- A truth value. -/
def truth? (s : String) : Option Bool :=
  match Text.trim s with
  | "true" => some true
  | "false" => some false
  | _ => none

/-- The settings that named texts give. -/
def ofLookup (lookup : String → Option String) : Config :=
  let default : Config := {}
  let number (name : String) (bound : Nat) : Option Nat := (lookup name).bind (number? bound)
  { bind := (lookup "SLOTHOLD_BIND").getD default.bind
    port := (number "SLOTHOLD_PORT" UInt16.size).getD default.port
    holdTtl := max 1 (min maxHoldTtl
      ((number "SLOTHOLD_HOLD_TTL_SECS" UInt64.size).getD default.holdTtl))
    singleHold := ((lookup "SLOTHOLD_SINGLE_HOLD").bind truth?).getD default.singleHold
    maxConnections := (number "SLOTHOLD_MAX_CONNECTIONS" UInt64.size).getD default.maxConnections
    token := (lookup "SLOTHOLD_TOKEN").getD default.token
    dataDir := (lookup "SLOTHOLD_DATA_DIR").getD default.dataDir
    reaperInterval := max 1
      ((number "SLOTHOLD_REAPER_INTERVAL_MS" UInt64.size).getD default.reaperInterval)
    metricsPort := number "SLOTHOLD_METRICS_PORT" UInt16.size }

/-- What governs the holds of every tenant. -/
def policy (c : Config) : Reservation.Policy := { ttl := 1000 * c.holdTtl, singleHold := c.singleHold }

/-- Where the service listens. -/
def address (c : Config) : String := c.bind ++ ":" ++ Text.Decimal.text c.port

/-! ## Comparison with the defaults -/

/-- Does a path start at the root? -/
def isRooted (path : String) : Bool := path.toList.head? = some '/'

/-- The steps of a path. Repeated slashes count once, and a dot counts only in front of a path that
does not start at the root. -/
def pathSteps (path : String) : List String :=
  let parts := (path.splitOn "/").filter (· ≠ "")
  match parts with
  | [] => []
  | first :: rest =>
    (if first = "." ∧ isRooted path then [] else [first]) ++ rest.filter (· ≠ ".")

/-- Do two texts name the same path? -/
def samePath (a b : String) : Bool := isRooted a = isRooted b ∧ pathSteps a = pathSteps b

/-- Are all settings the defaults? -/
def isDefault (c : Config) : Bool :=
  let default : Config := {}
  { c with dataDir := default.dataDir } = default && samePath c.dataDir default.dataDir

theorem holdTtl_ofLookup (lookup : String → Option String) :
    1 ≤ (ofLookup lookup).holdTtl ∧ (ofLookup lookup).holdTtl ≤ maxHoldTtl := by
  simp only [ofLookup, maxHoldTtl]
  omega

theorem reaperInterval_ofLookup (lookup : String → Option String) :
    1 ≤ (ofLookup lookup).reaperInterval := by
  simp only [ofLookup]
  omega

end Config
end Holdfast
