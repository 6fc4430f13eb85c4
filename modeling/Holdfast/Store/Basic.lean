import Holdfast.SortedMap

/-!
# A store of texts that expire

Texts under keys, each with a deadline. An entry is live before its deadline; later it is out of sight
until an eviction reports it or a write takes its place. Every write gives its entry a version of its
own, so two looks at a key that see the same version see the same write.

Times are milliseconds, and every operation says what time it is. Time has no end here: a deadline is
a number without a bound, where the clock of a machine ends about `2 ^ 63` seconds after it starts and
a write whose deadline lies beyond that does not come about. Nor has the count of the writes an end,
which a machine would keep in 64 bits. So whatever is proved of the store is about a machine on which
no deadline comes near the end of the clock, and on which there are fewer than `2 ^ 64` writes.
-/

namespace Holdfast

/-- A stored text. -/
structure Entry where
  value : String
  /-- The first instant at which the entry is no longer live. -/
  deadline : Nat
  /-- The number of the write that made the entry. -/
  version : Nat
  deriving DecidableEq

/-- Is the entry in sight? -/
def Entry.isLive (now : Nat) (e : Entry) : Bool := now < e.deadline

/-- The stored entries, and the number of writes so far. -/
structure Store where
  entries : SortedMap String Entry := .empty
  writes : Nat := 0

namespace Store

instance : Inhabited Store := ⟨{}⟩

/-- The live entry under a key. -/
def live? (now : Nat) (s : Store) (key : String) : Option Entry :=
  (s.entries.get? key).filter (·.isLive now)

/-- Writes a text that lives for `ttl` milliseconds, however late that is. -/
def put (now : Nat) (s : Store) (key value : String) (ttl : Nat) : Store :=
  { entries := s.entries.insert key ⟨value, now + ttl, s.writes + 1⟩, writes := s.writes + 1 }

/-- Takes an entry away, live or not. -/
def remove (s : Store) (key : String) : Store := { s with entries := s.entries.erase key }

/-- The live text under a key. -/
def read? (now : Nat) (s : Store) (key : String) : Option String := (s.live? now key).map (·.value)

/-- How long the live entry under a key has left. -/
def remaining? (now : Nat) (s : Store) (key : String) : Option Nat :=
  (s.live? now key).map (·.deadline - now)

/-- Writes only if no live entry is there, and says whether it did. -/
def tryCreate (now : Nat) (s : Store) (key value : String) (ttl : Nat) : Bool × Store :=
  if (s.live? now key).isSome then (false, s) else (true, s.put now key value ttl)

/-- Takes an entry away, and says whether it was live. -/
def delete (now : Nat) (s : Store) (key : String) : Bool × Store :=
  ((s.live? now key).isSome, s.remove key)

/-- Takes away what is no longer live, and reports it in key order. -/
def evict (now : Nat) (s : Store) : List (String × String) × Store :=
  ((s.entries.filter (!·.2.isLive now)).toList.map fun (key, e) => (key, e.value),
    { s with entries := s.entries.filter (·.2.isLive now) })

/-- The live entries in key order. -/
def liveEntries (now : Nat) (s : Store) : List (String × Entry) :=
  (s.entries.filter (·.2.isLive now)).toList

/-- The number of entries, live or not. -/
def size (s : Store) : Nat := s.entries.size

/-! ## What is live after each change -/

theorem live?_eq_some_iff {now : Nat} {s : Store} {key : String} {e : Entry} :
    s.live? now key = some e ↔ s.entries.get? key = some e ∧ now < e.deadline := by
  simp [live?, Option.filter_eq_some_iff, Entry.isLive]

theorem live?_put_ne (now t : Nat) (s : Store) {key key' : String} (h : key' ≠ key) (value : String)
    (ttl : Nat) : (s.put now key value ttl).live? t key' = s.live? t key' := by
  rw [live?, live?, put, s.entries.get?_insert_ne h]

@[simp] theorem live?_remove_self (t : Nat) (s : Store) (key : String) :
    (s.remove key).live? t key = none := by
  simp [live?, remove]

theorem live?_remove_ne (t : Nat) (s : Store) {key key' : String} (h : key' ≠ key) :
    (s.remove key).live? t key' = s.live? t key' := by
  rw [live?, live?, remove, s.entries.get?_erase_ne h]

/-- An eviction takes nothing out of sight that was in sight, now or later. -/
theorem live?_evict (now t : Nat) (h : now ≤ t) (s : Store) (key : String) :
    (s.evict now).2.live? t key = s.live? t key := by
  rw [live?, live?, evict, SortedMap.get?_filter]
  cases s.entries.get? key with
  | none => rfl
  | some e =>
    by_cases live : t < e.deadline
    · have : now < e.deadline := by omega
      simp [Option.filter, Entry.isLive, live, this]
    · by_cases early : now < e.deadline <;> simp [Option.filter, Entry.isLive, live, early]

end Store
end Holdfast
