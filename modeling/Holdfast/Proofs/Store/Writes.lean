import Holdfast.Proofs.Store.KeyLayout
import Holdfast.Reservation.Acquire

/-!
# What the writes of a transaction leave behind

A transaction touches the keys that it writes and no others (`get?_writes_ne`), and what is stored
afterwards was stored before or put there (`get?_of_writes`): under each key, what the last write to
it leaves (`content_writes_eq`). Deletes leave nothing under their keys
(`get?_deletes`), and the writes of an acquire leave the hold, and the holder's entry, with one
deadline (`get?_placing_hold`, `get?_placing_holder`). What is stored is live until its deadline, so
each of these has a counterpart for live entries.
-/

namespace Holdfast

/-- The text and the deadline of an entry. -/
def Entry.content (e : Entry) : String × Nat := (e.value, e.deadline)

/-- The key that is written. -/
def Write.key : Write → String
  | .put key _ _ => key
  | .delete key => key

/-- What a write leaves under its key: a text with its deadline, or nothing. -/
def Write.leaves (now : Nat) : Write → Option (String × Nat)
  | .put _ value ttl => some (value, now + ttl)
  | .delete _ => none

/-- The last of some writes to a key. -/
def Write.last? (writes : List Write) (key : String) : Option Write :=
  writes.reverse.find? (·.key = key)

/-- None of the writes is to the key. -/
def Write.Misses (writes : List Write) (key : String) : Prop := ∀ write ∈ writes, write.key ≠ key

namespace Write.Misses

variable {write : Write} {rest : List Write} {key : String}

/-- One more write to another key. -/
theorem cons (first : write.key ≠ key) (h : Misses rest key) : Misses (write :: rest) key :=
  List.forall_mem_cons.2 ⟨first, h⟩

/-- A single write to another key. -/
theorem single (first : write.key ≠ key) : Misses [write] key :=
  cons first fun _ mem => nomatch mem

/-- Deletes of other keys. -/
theorem deletes {keys : List String} (other : key ∉ keys) : Misses (keys.map .delete) key := by
  intro write mem same
  obtain ⟨key', there, rfl⟩ := List.mem_map.1 mem
  obtain rfl : key' = key := same
  exact other there

end Write.Misses

namespace Store

variable {now t : Nat} {s : Store} {key : String} {writes : List Write}

/-- A write touches no other key. -/
theorem get?_apply_ne {write : Write} (h : write.key ≠ key) :
    (s.apply now write).entries.get? key = s.entries.get? key := by
  cases write with
  | put key' value ttl => exact s.entries.get?_insert_ne h.symm _
  | delete key' => exact s.entries.get?_erase_ne h.symm

/-- Writes touch no other keys. -/
theorem get?_writes_ne (h : Write.Misses writes key) :
    (writes.foldl (apply now) s).entries.get? key = s.entries.get? key := by
  induction writes generalizing s with
  | nil => rfl
  | cons write rest ih =>
    rw [List.foldl_cons, ih fun x mem => h x (List.mem_cons_of_mem _ mem)]
    exact get?_apply_ne (h write List.mem_cons_self)

/-- Writes touch no other keys, whether their entries are live or not. -/
theorem live?_writes_ne (h : Write.Misses writes key) :
    (writes.foldl (apply now) s).live? t key = s.live? t key := by
  rw [live?, live?, get?_writes_ne h]

/-- What a write leaves under its key does not depend on what was there. -/
theorem content_apply_self (write : Write) :
    ((s.apply now write).entries.get? write.key).map Entry.content = write.leaves now := by
  cases write with
  | put key value ttl =>
    simp only [apply, put, Write.key, SortedMap.get?_insert_self, Option.map_some]
    rfl
  | delete key => simp [apply, remove, Write.key, Write.leaves]

/-- **The last write to a key decides** what is under it after some writes. -/
theorem content_writes_eq (writes : List Write) :
    ((writes.foldl (apply now) s).entries.get? key).map Entry.content =
      (Write.last? writes key).elim ((s.entries.get? key).map Entry.content) (·.leaves now) := by
  unfold Write.last?
  induction writes generalizing s with
  | nil => rfl
  | cons write rest ih =>
    rw [List.foldl_cons, ih, List.reverse_cons, List.find?_append]
    cases rest.reverse.find? (·.key = key) with
    | some later => rfl
    | none =>
      by_cases same : write.key = key
      · subst same
        simp [content_apply_self]
      · simp [get?_apply_ne same, same]

/-- What is stored after some writes was stored before, or one of them put it there. -/
theorem get?_of_writes {e : Entry} (h : (writes.foldl (apply now) s).entries.get? key = some e) :
    s.entries.get? key = some e ∨
      ∃ ttl, .put key e.value ttl ∈ writes ∧ e.deadline = now + ttl := by
  induction writes generalizing s with
  | nil => exact .inl h
  | cons write rest ih =>
    rcases ih h with before | ⟨ttl, mem, deadline⟩
    · by_cases same : write.key = key
      · cases write with
        | put key' value ttl =>
          obtain rfl : key' = key := same
          rw [apply, put, SortedMap.get?_insert_self] at before
          obtain rfl := Option.some.inj before
          exact .inr ⟨ttl, List.mem_cons_self, rfl⟩
        | delete key' =>
          obtain rfl : key' = key := same
          rw [apply, remove, SortedMap.get?_erase_self] at before
          cases before
      · rw [get?_apply_ne same] at before
        exact .inl before
    · exact .inr ⟨ttl, List.mem_cons_of_mem _ mem, deadline⟩

/-- What is under a key that was just written. -/
theorem live?_put_iff {value : String} {ttl : Nat} {e : Entry} :
    (s.put now key value ttl).live? t key = some e ↔
      e = ⟨value, now + ttl, s.writes + 1⟩ ∧ t < now + ttl := by
  rw [live?_eq_some_iff, put, SortedMap.get?_insert_self, Option.some.injEq, eq_comm]
  constructor
  · rintro ⟨rfl, early⟩
    exact ⟨rfl, early⟩
  · rintro ⟨rfl, early⟩
    exact ⟨rfl, early⟩

/-- Taking an entry away adds nothing. -/
theorem get?_of_remove {key' : String} {e : Entry}
    (h : (s.remove key').entries.get? key = some e) : s.entries.get? key = some e := by
  by_cases same : key = key'
  · subst same
    rw [remove, SortedMap.get?_erase_self] at h
    cases h
  · rwa [remove, s.entries.get?_erase_ne same] at h

/-- Taking an entry away makes nothing live. -/
theorem live?_of_remove {key' : String} {e : Entry}
    (h : (s.remove key').live? t key = some e) : s.live? t key = some e := by
  obtain ⟨there, early⟩ := live?_eq_some_iff.1 h
  exact live?_eq_some_iff.2 ⟨get?_of_remove there, early⟩

/-- Deletes add nothing. -/
theorem get?_of_deletes {keys : List String} {e : Entry}
    (h : ((keys.map Write.delete).foldl (apply now) s).entries.get? key = some e) :
    s.entries.get? key = some e := by
  rcases get?_of_writes h with before | ⟨ttl, mem, -⟩
  · exact before
  · obtain ⟨key', -, same⟩ := List.mem_map.1 mem
    cases same

/-- Deletes make nothing live. -/
theorem live?_of_deletes {keys : List String} {e : Entry}
    (h : ((keys.map Write.delete).foldl (apply now) s).live? t key = some e) :
    s.live? t key = some e := by
  obtain ⟨there, early⟩ := live?_eq_some_iff.1 h
  exact live?_eq_some_iff.2 ⟨get?_of_deletes there, early⟩

/-- Deletes leave nothing under their keys. -/
theorem get?_deletes {keys : List String} (h : key ∈ keys) :
    ((keys.map Write.delete).foldl (apply now) s).entries.get? key = none := by
  rw [Option.eq_none_iff_forall_ne_some]
  intro e there
  induction keys generalizing s with
  | nil => cases h
  | cons key' rest ih =>
    rcases List.mem_cons.1 h with rfl | h
    · have first := get?_of_deletes (s := s.apply now (.delete key)) there
      rw [apply, remove, SortedMap.get?_erase_self] at first
      cases first
    · exact ih h there

/-- Deletes leave nothing live under their keys. -/
theorem live?_deletes {keys : List String} (h : key ∈ keys) :
    ((keys.map Write.delete).foldl (apply now) s).live? t key = none := by
  rw [live?, get?_deletes h]
  rfl

end Store

namespace Reservation

open Store

variable {now t : Nat} {s : Store} {policy : Policy} {hold : HoldRecord} {slot slot' : SlotId}
  {holder : HolderId} {ttl : Nat}

/-- An acquire writes the hold, the holder's entry and that of a connection. -/
theorem mem_placing {write : Write} (h : write ∈ placing policy hold slot holder ttl) :
    write = .put (Key.hold slot) hold.encode ttl ∨
      policy.singleHold = true ∧ write = .put (Key.holder holder) (SlotId.text slot) ttl ∨
      ∃ session, write = .put (Key.session session) (SlotId.text slot) ttl := by
  unfold placing at h
  rcases List.mem_append.1 h with h | h
  · rcases List.mem_append.1 h with h | h
    · exact .inl (List.mem_singleton.1 h)
    · split at h
      · rename_i single
        exact .inr (.inl ⟨single, List.mem_singleton.1 h⟩)
      · cases h
  · rw [Option.mem_toList] at h
    obtain ⟨session, -, same⟩ := Option.map_eq_some_iff.1 h
    exact .inr (.inr ⟨session, same.symm⟩)

/-- An acquire writes to no other keys. -/
theorem misses_placing {key : String} (hold_ne : Key.hold slot ≠ key)
    (holder_ne : Key.holder holder ≠ key) (session_ne : ∀ s, Key.session s ≠ key) :
    Write.Misses (placing policy hold slot holder ttl) key := by
  intro write mem
  rcases mem_placing mem with rfl | ⟨-, rfl⟩ | ⟨session, rfl⟩
  · exact hold_ne
  · exact holder_ne
  · exact session_ne session

/-- An acquire of another slot does not touch the hold on this one. -/
theorem misses_placing_hold (h : slot ≠ slot') :
    Write.Misses (placing policy hold slot holder ttl) (Key.hold slot') :=
  misses_placing (fun same => h (Key.hold_inj same)) (Key.hold_ne_holder slot' holder).symm
    fun session => (Key.hold_ne_session slot' session).symm

/-- An acquire for another holder does not touch this one's entry. -/
theorem misses_placing_holder {holder' : HolderId} (h : holder ≠ holder') :
    Write.Misses (placing policy hold slot holder ttl) (Key.holder holder') :=
  misses_placing (Key.hold_ne_holder slot holder') (fun same => h (Key.holder_inj same))
    fun session => (Key.holder_ne_session holder' session).symm

/-- An acquire does not touch the mark of a booking. -/
theorem misses_placing_booked :
    Write.Misses (placing policy hold slot holder ttl) (Key.booked slot') :=
  misses_placing (Key.hold_ne_booked slot slot') (Key.booked_ne_holder slot' holder).symm
    fun session => (Key.booked_ne_session slot' session).symm

/-- After an acquire its hold is stored. -/
theorem get?_placing_hold :
    ((placing policy hold slot holder ttl).foldl (apply now) s).entries.get? (Key.hold slot) =
      some ⟨hold.encode, now + ttl, s.writes + 1⟩ := by
  unfold placing
  rw [List.append_assoc, List.singleton_append, List.foldl_cons, get?_writes_ne]
  · exact s.entries.get?_insert_self _ _
  · intro write mem
    rcases List.mem_append.1 mem with mem | mem
    · split at mem
      · obtain rfl := List.mem_singleton.1 mem
        exact (Key.hold_ne_holder slot holder).symm
      · cases mem
    · rw [Option.mem_toList] at mem
      obtain ⟨session, -, rfl⟩ := Option.map_eq_some_iff.1 mem
      exact (Key.hold_ne_session slot session).symm

/-- After an acquire its hold is live for its time. -/
theorem live?_placing_hold {e : Entry} :
    ((placing policy hold slot holder ttl).foldl (apply now) s).live? t (Key.hold slot) = some e ↔
      e = ⟨hold.encode, now + ttl, s.writes + 1⟩ ∧ t < now + ttl := by
  rw [live?_eq_some_iff, get?_placing_hold, Option.some.injEq, eq_comm]
  constructor
  · rintro ⟨rfl, early⟩
    exact ⟨rfl, early⟩
  · rintro ⟨rfl, early⟩
    exact ⟨rfl, early⟩

/-- After an acquire its holder's entry is stored, and names the slot. -/
theorem get?_placing_holder (single : policy.singleHold = true) :
    ((placing policy hold slot holder ttl).foldl (apply now) s).entries.get? (Key.holder holder) =
      some ⟨SlotId.text slot, now + ttl, s.writes + 2⟩ := by
  unfold placing
  rw [if_pos single, List.append_assoc, List.foldl_append, List.singleton_append,
    List.foldl_cons, get?_writes_ne]
  · exact SortedMap.get?_insert_self _ _ _
  · intro write mem
    rw [Option.mem_toList] at mem
    obtain ⟨session, -, rfl⟩ := Option.map_eq_some_iff.1 mem
    exact (Key.holder_ne_session holder session).symm

/-- After an acquire its holder's entry names the slot for as long as the hold is live. -/
theorem live?_placing_holder (single : policy.singleHold = true) {e : Entry} :
    ((placing policy hold slot holder ttl).foldl (apply now) s).live? t (Key.holder holder) =
      some e ↔ e = ⟨SlotId.text slot, now + ttl, s.writes + 2⟩ ∧ t < now + ttl := by
  rw [live?_eq_some_iff, get?_placing_holder single, Option.some.injEq, eq_comm]
  constructor
  · rintro ⟨rfl, early⟩
    exact ⟨rfl, early⟩
  · rintro ⟨rfl, early⟩
    exact ⟨rfl, early⟩

/-- After an acquire the entry of the hold's connection is stored, and names the slot. -/
theorem get?_placing_session {session : SessionId} (connected : hold.session = some session) :
    ∃ v, ((placing policy hold slot holder ttl).foldl (apply now) s).entries.get?
      (Key.session session) = some ⟨SlotId.text slot, now + ttl, v⟩ := by
  unfold placing
  rw [connected, List.foldl_append]
  exact ⟨_, SortedMap.get?_insert_self _ _ _⟩

/-- An acquire touches no keys but that of the hold and, where there are such, those of its holder
and of its connection. -/
theorem misses_placing_of_ne {key : String} (hold_ne : Key.hold slot ≠ key)
    (holder_ne : policy.singleHold = true → Key.holder holder ≠ key)
    (session_ne : ∀ session, hold.session = some session → Key.session session ≠ key) :
    Write.Misses (placing policy hold slot holder ttl) key := by
  intro write mem
  simp only [placing, List.mem_append, List.mem_singleton, Option.mem_toList,
    Option.map_eq_some_iff] at mem
  rcases mem with (rfl | mem) | ⟨session, connected, rfl⟩
  · exact hold_ne
  · split at mem
    · rename_i single
      obtain rfl := List.mem_singleton.1 mem
      exact holder_ne single
    · cases mem
  · exact session_ne session connected

end Reservation
end Holdfast
