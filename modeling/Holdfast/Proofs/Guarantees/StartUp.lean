import Holdfast.Proofs.Text.Digits
import Holdfast.Proofs.Text.Trimming
import Holdfast.Service.Basic
import Mathlib.Algebra.Group.Nat.Defs

/-!
# Which settings the service starts with

Whatever the named texts say, the settings that they give are ones that the parts of the service admit,
but for the number of connections: it is taken as it is said, and there cannot be that many permits. So
the service starts unless a text asks for too many connections (`Service.starts_iff`), and there are such
texts (`Service.not_always_starts`).
-/

namespace Holdfast

/-- **A text that says a number**: its digits, with zeros and a plus sign in front or without, and white
space at its ends. -/
def Text.Says (s : String) (n : Nat) : Prop :=
  ∃ t sign zeros, Trims s t ∧ (sign = [] ∨ sign = ['+']) ∧
    t.toList = sign ++ List.replicate zeros '0' ++ Decimal.digits n

namespace Config

/-- **Settings that the parts of the service admit.** -/
structure Admitted (c : Config) : Prop where
  port : c.port < 2 ^ 16
  metricsPort : ∀ port, c.metricsPort = some port → port < 2 ^ 16
  /-- A hold lasts for some time, and not for more than an hour. -/
  holdTtl : 1 ≤ c.holdTtl ∧ c.holdTtl ≤ 3600
  /-- There is some time between two passes. -/
  reaperInterval : 1 ≤ c.reaperInterval ∧ c.reaperInterval < 2 ^ 64
  /-- There can be a permit for each connection. -/
  maxConnections : c.maxConnections < 2 ^ 61

/-- **A text asks for more connections than there can be permits.** -/
def Overasks (lookup : String → Option String) : Prop :=
  ∃ text n, lookup "SLOTHOLD_MAX_CONNECTIONS" = some text ∧ Text.Says text n ∧ 2 ^ 61 ≤ n ∧ n < 2 ^ 64

variable {lookup : String → Option String} {bound n : Nat}

/-- A number is taken from the texts that say it. -/
theorem number?_eq_some_iff {s : String} : number? bound s = some n ↔ n < bound ∧ Text.Says s n := by
  have trimmed : Text.trimBlank s.toList = (Text.trim s).toList := by
    rw [Text.trim, String.toList_ofList]
  rw [number?, Text.Decimal.readBelow?_eq_some_iff, trimmed]
  simp only [Text.Says, Text.trims_iff, exists_and_left, exists_eq_left]

/-- So is a number that a named text says. -/
theorem numberOf_eq_some_iff {name : String} : (lookup name).bind (number? bound) = some n ↔
    ∃ text, lookup name = some text ∧ n < bound ∧ Text.Says text n := by
  simp only [Option.bind_eq_some_iff, number?_eq_some_iff]

/-- Without such a text the default is taken, so a bound for both is one for the setting. -/
theorem getD_number_lt {name : String} {default : Nat} (small : default < bound) :
    ((lookup name).bind (number? bound)).getD default < bound := by
  cases read : (lookup name).bind (number? bound) with
  | none => exact small
  | some n =>
    obtain ⟨-, -, below, -⟩ := numberOf_eq_some_iff.1 read
    exact below

/-- Only the number of connections can be too large. -/
theorem admitted_iff : (ofLookup lookup).Admitted ↔ (ofLookup lookup).maxConnections < 2 ^ 61 := by
  have ports : 8080 < UInt16.size := by decide
  have intervals : 5000 < UInt64.size := by decide
  refine ⟨Admitted.maxConnections, fun few => ⟨?_, ?_, holdTtl_ofLookup lookup, ?_, few⟩⟩
  · exact getD_number_lt ports
  · intro port read
    obtain ⟨-, -, below, -⟩ := numberOf_eq_some_iff.1 read
    exact below
  · exact ⟨reaperInterval_ofLookup lookup, Nat.max_lt.2 ⟨by decide, getD_number_lt intervals⟩⟩

/-- It is too large if a text asks for that many. -/
theorem maxConnections_lt_iff : (ofLookup lookup).maxConnections < 2 ^ 61 ↔ ¬ Overasks lookup := by
  have asked : ∀ {text n}, lookup "SLOTHOLD_MAX_CONNECTIONS" = some text → Text.Says text n → n < 2 ^ 64 →
      (ofLookup lookup).maxConnections = n := by
    intro text n named said below
    have read := numberOf_eq_some_iff.2 ⟨text, named, below, said⟩
    exact congrArg (Option.getD · 256) read
  constructor
  · rintro few ⟨text, n, named, said, many, below⟩
    rw [asked named said below] at few
    omega
  · intro modest
    cases read : (lookup "SLOTHOLD_MAX_CONNECTIONS").bind (number? UInt64.size) with
    | none =>
      have default : (ofLookup lookup).maxConnections = 256 := congrArg (Option.getD · 256) read
      rw [default]
      decide
    | some n =>
      obtain ⟨text, named, below, said⟩ := numberOf_eq_some_iff.1 read
      rw [asked named said below]
      exact Nat.lt_of_not_le fun many => modest ⟨text, n, named, said, many, below⟩

end Config

namespace Service

/-- The service starts if there can be that many permits. -/
theorem exists_new_iff (config : Config) (seeds : SortedMap String SeedFile) :
    (∃ s, new? config seeds = some s) ↔ config.maxConnections < 2 ^ 61 := by
  have permits : maxPermits + 1 = 2 ^ 61 := by decide
  rw [← permits, Nat.lt_succ_iff, new?]
  split
  · rename_i few
    exact iff_of_true ⟨_, rfl⟩ few
  · rename_i many
    exact iff_of_false (by simp) many

/-- **The service starts exactly with settings that its parts admit**, and those are all but the ones of
a text that asks for too many connections. -/
theorem starts_iff (lookup : String → Option String) (seeds : SortedMap String SeedFile) :
    ((∃ s, new? (Config.ofLookup lookup) seeds = some s) ↔ (Config.ofLookup lookup).Admitted) ∧
      ((Config.ofLookup lookup).Admitted ↔ ¬ Config.Overasks lookup) :=
  ⟨(exists_new_iff _ seeds).trans Config.admitted_iff.symm,
    Config.admitted_iff.trans Config.maxConnections_lt_iff⟩

/-- Texts that ask for one connection more than there can be permits. -/
def overasking (name : String) : Option String :=
  if name = "SLOTHOLD_MAX_CONNECTIONS" then some "2305843009213693952" else none

/-- There are texts with which the service does not start. -/
theorem not_always_starts : ¬ ∀ (lookup : String → Option String) (seeds : SortedMap String SeedFile),
    ∃ s, new? (Config.ofLookup lookup) seeds = some s := by
  intro always
  obtain ⟨s, started⟩ := always overasking .empty
  have refused : new? (Config.ofLookup overasking) .empty = none := by
    have many : ¬ (Config.ofLookup overasking).maxConnections ≤ maxPermits := by decide +kernel
    exact if_neg many
  rw [refused] at started
  cases started

end Service
end Holdfast
