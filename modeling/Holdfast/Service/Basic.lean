import Holdfast.Config
import Holdfast.Credentials
import Holdfast.Socket.Frame
import Holdfast.Tenancy

/-!
# The service

Everything that the service keeps: its tenants, its live connections, the permits for more, the time
and the metrics.
-/

namespace Holdfast

open Reservation

namespace Socket

/-- What a connection sends. -/
inductive Outgoing where
  | event (e : ServerEvent)
  | pong (text : String)
  /-- The connection ended. -/
  | closed

/-- A live connection. -/
structure Session where
  id : SessionId
  /-- The key of its tenant. -/
  tenant : String
  holder : HolderId
  /-- The rooms that it forwards to its client. -/
  rooms : SortedMap Day Receiver := .empty
  /-- What it has sent and nobody has collected yet. -/
  outbox : List Outgoing := []
  isOpen : Bool := true

end Socket

/-- The state of the service. -/
structure Service where
  config : Config
  registry : Registry
  clock : Nat := 0
  metrics : Metrics := {}
  sessions : SortedMap Nat Socket.Session := .empty
  /-- How many connections there have been. -/
  opened : Nat := 0
  /-- How many more connections may be opened at once. -/
  permits : Nat
  isShutDown : Bool := false
  /-- Do passes for expired holds still run? -/
  isReaping : Bool := true

/-- The most permits that there can be: the upper three bits of a word are not for them. -/
def maxPermits : Nat := (UInt64.size - 1) / 8

namespace Service

/-- The service at the start; none, if its settings ask for more permits than there can be. -/
def new? (config : Config) (seeds : SortedMap String SeedFile) : Option Service :=
  if config.maxConnections ≤ maxPermits then
    some { config, registry := { seeds }, permits := config.maxConnections }
  else none

/-- Something that the service does. -/
abbrev Action := StateM Service

/-- Adds to a metric. -/
def add (m : Metric) (n : Int) : Action Unit :=
  modify fun s => { s with metrics := s.metrics.add m n }

/-- Runs a program for a tenant. -/
def runFor {ε α : Type} (tenant : String) (p : Program ε α) : Action (Except ε α) := fun s =>
  let w : World :=
    { toBackend := s.registry.backend tenant, clock := s.clock, metrics := s.metrics }
  let (r, w) := w.run p
  (r, { s with registry := s.registry.setBackend tenant w.toBackend, metrics := w.metrics })

/-- Changes the rooms of a tenant. -/
def changeRooms {α : Type} (tenant : String) (f : Hub → α × Hub) : Action α := fun s =>
  let backend := s.registry.backend tenant
  let (a, rooms) := f backend.rooms
  (a, { s with registry := s.registry.setBackend tenant { backend with rooms } })

/-- The key of the tenant of a name, which is loaded if need be. -/
def tenantOf (name : String) : Action (Except TenantError String) := fun s =>
  let (r, registry) := s.registry.getOrLoad s.clock name
  match r with
  | .ok key =>
    (.ok key, { s with registry, metrics := s.metrics.set .tenantsActive registry.size })
  | .error e => (.error e, { s with registry })

end Service
end Holdfast
