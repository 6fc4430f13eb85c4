import Holdfast.Reservation.World
import Holdfast.Seed
import Holdfast.Text.Alphanumeric

/-!
# Tenants

Tenants share nothing but the service that runs them. A tenant is loaded from its seed when it is
first named. Of a name only letters, digits, underscores and hyphens count, so the seed that it leads
to lies right in the data directory; and there is a limit to how many tenants are loaded.
-/

namespace Holdfast

open Reservation

/-- A tenant that is loaded. -/
structure Tenant where
  backend : Backend
  /-- When the next pass for expired holds is due. -/
  nextPass : Nat

/-- Why there is no tenant of a name. -/
inductive TenantError where
  | nameTooLong
  | emptyName
  | tooMany
  | seed (e : SeedError)
  deriving DecidableEq

/-- The error in words; what is wrong with a seed is not said. -/
def TenantError.message? : TenantError → Option String
  | nameTooLong => some "tenant name too long"
  | emptyName => some "empty tenant name"
  | tooMany => some "too many tenants"
  | seed _ => none

/-- The tenants that are loaded. -/
structure Registry where
  /-- The data directory: seeds by the name of their tenant. -/
  seeds : SortedMap String SeedFile := .empty
  tenants : SortedMap String Tenant := .empty
  /-- The places that are taken. -/
  reserved : Nat := 0

namespace Registry

instance : Inhabited Registry := ⟨{}⟩

/-- The longest name of a tenant, in octets. -/
def maxName : Nat := 128

/-- How many tenants can be loaded. -/
def maxTenants : Nat := 1000

/-- May the character occur in the name of a seed? -/
def isSafe (c : Char) : Bool := Text.isAlphanumeric c || c = '_' || c = '-'

/-- What counts of a name. -/
def safeName (name : String) : String := String.ofList (name.toList.filter isSafe)

/-- The number of tenants. -/
def size (r : Registry) : Nat := r.tenants.size

/-- The backend of a tenant at the start. -/
def build (r : Registry) (key : String) : Except SeedError Backend :=
  (Seed.load ((r.seeds.get? key).getD .missing)).map fun seed =>
    { catalogue := seed.catalogue, admission := seed.admission }

/-- Gives a place back. -/
def giveBack (r : Registry) : Registry := { r with reserved := r.reserved - 1 }

/-- Loads a tenant that is not loaded yet. A place is taken first, and given back on failure. -/
def load (now : Nat) (r : Registry) (key : String) : Except TenantError String × Registry :=
  let taken : Registry := { r with reserved := r.reserved + 1 }
  if maxTenants ≤ r.reserved then (.error .tooMany, taken.giveBack)
  else
    match taken.build key with
    | .error e => (.error (.seed e), taken.giveBack)
    | .ok backend =>
      (.ok key, { taken with tenants := taken.tenants.insert key { backend, nextPass := now } })

/-- The key of the tenant of a name, which is loaded if need be. -/
def getOrLoad (now : Nat) (r : Registry) (name : String) : Except TenantError String × Registry :=
  if (r.tenants.get? name).isSome then (.ok name, r)
  else if maxName < name.utf8ByteSize then (.error .nameTooLong, r)
  else
    let key := safeName name
    if key = "" then (.error .emptyName, r)
    else if (r.tenants.get? key).isSome then (.ok key, r)
    else r.load now key

/-- The backend of a tenant. -/
def backend (r : Registry) (key : String) : Backend :=
  ((r.tenants.get? key).map (·.backend)).getD {}

/-- The registry with another backend for a tenant that is loaded. -/
def setBackend (r : Registry) (key : String) (b : Backend) : Registry :=
  match r.tenants.get? key with
  | some t => { r with tenants := r.tenants.insert key { t with backend := b } }
  | none => r

end Registry
end Holdfast
