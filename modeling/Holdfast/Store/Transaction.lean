import Holdfast.Store.Basic

/-!
# Transactions

A transaction first looks at the keys that its decision rests on and then writes, on condition that
none of these keys has changed since. What it saw is a `Watch`: the version of each key, or that
the key was absent. Watches of one transaction are merged, and the first look at a key counts.
-/

namespace Holdfast

/-- The versions that some keys were seen with; `none` for a key that had no live entry. -/
structure Watch where
  versions : List (String × Option Nat) := []
  deriving DecidableEq

namespace Watch

/-- A watch with one more key, unless it has the key already. -/
def add (w : Watch) (seen : String × Option Nat) : Watch :=
  if w.versions.any (·.1 = seen.1) then w else ⟨w.versions ++ [seen]⟩

/-- Adds what was seen later in the same transaction. -/
def merge (w later : Watch) : Watch := later.versions.foldl add w

end Watch

/-- A write of a transaction. -/
inductive Write where
  | put (key value : String) (ttl : Nat)
  | delete (key : String)
  deriving DecidableEq

/-- How a transaction ended. One that is aborted wrote nothing. -/
inductive ExecOutcome where
  | committed
  | aborted
  deriving DecidableEq

namespace Store

/-- Looks at some keys. -/
def watch (now : Nat) (s : Store) (keys : List String) : Watch :=
  ⟨keys.map fun key => (key, (s.live? now key).map (·.version))⟩

/-- Does every watched key still have the version that it was seen with? -/
def agrees (now : Nat) (s : Store) (w : Watch) : Bool :=
  w.versions.all fun (key, version) => (s.live? now key).map (·.version) = version

/-- Carries out one write. -/
def apply (now : Nat) (s : Store) : Write → Store
  | .put key value ttl => s.put now key value ttl
  | .delete key => s.remove key

/-- Carries out the writes in order, if every watched key is as it was seen. -/
def exec (now : Nat) (s : Store) (w : Watch) (writes : List Write) : ExecOutcome × Store :=
  if s.agrees now w then (.committed, writes.foldl (apply now) s) else (.aborted, s)

theorem exec_committed_iff (now : Nat) (s : Store) (w : Watch) (writes : List Write) :
    (s.exec now w writes).1 = .committed ↔ s.agrees now w = true := by
  unfold exec
  split <;> simp_all

theorem exec_of_aborted {now : Nat} {s : Store} {w : Watch} {writes : List Write}
    (h : (s.exec now w writes).1 = .aborted) : (s.exec now w writes).2 = s := by
  unfold exec at h ⊢
  split <;> simp_all

end Store
end Holdfast
