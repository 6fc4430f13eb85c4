import Holdfast.Proofs.Interleaving.Steps
import Holdfast.Proofs.Store.Watches

/-!
# What calls do to the store and to the catalogue

A call changes the store and the catalogue by few kinds of effects, and each kind has grounds: what
the call found before, at which moves, and which of it the transaction still rests on. `Deed` lists
the kinds with their grounds. What other calls do in between does not matter to the grounds, since
they only say what was there at some moves of the past.

* `Run.Covers`: a transaction rests on what was under a key at some move (`live?_of_covers`).
* `Run.Placement`, `Run.Removal`, `Run.Fencing`: the grounds for writing a hold, for taking one
  away, and for marking a slot as being booked.
* `Run.Announcing`: the grounds for announcing an event.
* `Run.Deed`: everything that a call ever does.
-/

namespace Holdfast.Reservation

/-- The call acquires the slot for the claimant. -/
inductive Call.Acquires : Call → SlotId → Claimant → Prop where
  | alone (slot : SlotId) (claimant : Claimant) (ttl : Nat) :
    Acquires (.acquire slot claimant ttl) slot claimant
  | connected (slot : SlotId) (holder : HolderId) (session : SessionId) :
    Acquires (.acquireForSession slot holder session) slot { holder, session := some session }

/-- The call may release the slot for the claimant. -/
inductive Call.Releases : Call → SlotId → Claimant → Prop where
  | alone (slot : SlotId) (claimant : Claimant) : Releases (.release slot claimant) slot claimant
  | previous {slot other : SlotId} (holder : HolderId) (session : SessionId) (h : other ≠ slot) :
    Releases (.acquireForSession slot holder session) other { holder, session := some session }
  | ended (slot : SlotId) (holder : HolderId) (session : SessionId) :
    Releases (.endSession holder session) slot { holder, session := some session }

namespace Run

variable (ρ : Run)

/-! ## What a transaction rests on -/

/-- The watch has the version that the key had at the move. -/
def Saw (a : Nat) (key : String) (w : Watch) : Prop :=
  (key, (ρ.store a).version? (ρ.clock a) key) ∈ w.versions

/-- The watch saw the key at the move or before it. -/
def Covers (w : Watch) (key : String) (b : Nat) : Prop := ∃ a ≤ b, ρ.Saw a key w

/-- All that is in the watch was seen before the move. -/
def Seen (w : Watch) (n : Nat) : Prop :=
  ∀ key version, (key, version) ∈ w.versions →
    ∃ a < n, version = (ρ.store a).version? (ρ.clock a) key

section watches

variable {ρ} {w later : Watch} {key : String} {b n m : Nat} {keys : List String}

/-- Looking at keys sees them. -/
theorem covers_watch (h : key ∈ keys) : ρ.Covers ((ρ.store b).watch (ρ.clock b) keys) key b :=
  ⟨b, Nat.le_refl b, List.mem_map.2 ⟨key, h, rfl⟩⟩

/-- What a look sees was seen. -/
theorem seen_watch (b : Nat) (keys : List String) :
    ρ.Seen ((ρ.store b).watch (ρ.clock b) keys) (b + 1) := by
  intro key version mem
  obtain ⟨key', -, same⟩ := List.mem_map.1 mem
  obtain ⟨rfl, rfl⟩ := Prod.mk.inj same
  exact ⟨b, Nat.lt_succ_self b, rfl⟩

/-- A watch that saw a key before a move saw it before a later one. -/
theorem Covers.mono (h : ρ.Covers w key b) (le : b ≤ m) : ρ.Covers w key m := by
  obtain ⟨a, early, saw⟩ := h
  exact ⟨a, Nat.le_trans early le, saw⟩

/-- What was seen before a move was seen before a later one. -/
theorem Seen.mono (h : ρ.Seen w n) (le : n ≤ m) : ρ.Seen w m := by
  intro key version mem
  obtain ⟨a, early, same⟩ := h key version mem
  exact ⟨a, Nat.lt_of_lt_of_le early le, same⟩

/-- A merge rests on what the first watch rests on. -/
theorem Covers.merge (h : ρ.Covers w key b) (later : Watch) : ρ.Covers (w.merge later) key b := by
  obtain ⟨a, early, saw⟩ := h
  exact ⟨a, early, Watch.mem_merge saw later⟩

/-- What is in a merge was seen if both parts were. -/
theorem Seen.merge (h : ρ.Seen w n) (h' : ρ.Seen later n) : ρ.Seen (w.merge later) n := by
  intro key version mem
  rcases Watch.mem_of_mem_merge mem with mem | mem
  · exact h key version mem
  · exact h' key version mem

/-- A merge rests on a key that only the later watch had, or on what the first one saw of it. -/
theorem covers_merge_watch (h : ρ.Seen w b) (mem : key ∈ keys) :
    ρ.Covers (w.merge ((ρ.store b).watch (ρ.clock b) keys)) key b := by
  have all := (h.mono (Nat.le_succ b)).merge (seen_watch b keys)
  obtain ⟨version, there⟩ := w.exists_mem_merge
    (List.mem_map.2 ⟨key, mem, rfl⟩ :
      (key, _) ∈ ((ρ.store b).watch (ρ.clock b) keys).versions)
  obtain ⟨a, early, rfl⟩ := all key version there
  exact ⟨a, Nat.le_of_lt_succ early, there⟩

/-- **What a committed transaction finds under a key it rests on was there before.** -/
theorem live?_of_covers (covers : ρ.Covers w key b) (le : b ≤ m)
    (agrees : (ρ.store m).agrees (ρ.clock m) w = true) {e : Entry}
    (live : ρ.live? m key = some e) : ρ.live? b key = some e := by
  obtain ⟨a, early, saw⟩ := covers
  exact Store.live?_of_agrees (ρ.numbered a) (ρ.evolves early) (ρ.evolves le) (ρ.clock_le le) saw
    agrees live

/-- What a committed transaction reads under a key it rests on could be read before. -/
theorem read?_of_covers (covers : ρ.Covers w key b) (le : b ≤ m)
    (agrees : (ρ.store m).agrees (ρ.clock m) w = true) {text : String}
    (there : ρ.read? m key = some text) : ρ.read? b key = some text := by
  obtain ⟨e, live, rfl⟩ := Option.map_eq_some_iff.1 there
  exact Option.map_eq_some_iff.2 ⟨e, live?_of_covers covers le agrees live, rfl⟩

/-- What was absent under a key that a committed transaction rests on is absent. -/
theorem read?_eq_none_of_covers (covers : ρ.Covers w key b) (le : b ≤ m)
    (agrees : (ρ.store m).agrees (ρ.clock m) w = true) (absent : ρ.read? b key = none) :
    ρ.read? m key = none := by
  cases there : ρ.read? m key with
  | none => rfl
  | some text =>
    rw [read?_of_covers covers le agrees there] at absent
    cases absent

end watches

/-! ## Grounds -/

/-- The holder has no other hold: it does not matter, or no other slot was found under its name, or
the hold on the slot found there was gone or another's. -/
inductive Alone (slot : SlotId) (holder : HolderId) (w : Watch) (since m : Nat) : Prop where
  | many (h : ρ.policy.singleHold = false)
  | unnamed (j : Nat) (low : since < j) (high : j < m)
    (h : ∀ other, ρ.Names j (Key.holder holder) other → other = slot)
  | freed (j k : Nat) (other : SlotId) (low : since < j) (mid : j < k) (high : k < m)
    (names : ρ.Names j (Key.holder holder) other) (covers : ρ.Covers w (Key.hold other) k)
    (gone : ∀ hold, ρ.Holds k other hold → hold.owner ≠ holder)

/-- A holder that is known to be alone is so later. -/
theorem Alone.mono {ρ : Run} {slot : SlotId} {holder : HolderId} {w : Watch} {since m m' : Nat}
    (h : ρ.Alone slot holder w since m) (le : m ≤ m') : ρ.Alone slot holder w since m' := by
  cases h with
  | many h => exact .many h
  | unnamed j low high h => exact .unnamed j low (by omega) h
  | freed j k other low mid high names covers gone =>
    exact .freed j k other low mid (by omega) names covers gone

/-- The hold that an acquire writes: the claimant's own one, renewed, or a new one. -/
inductive Decided (record : SlotRecord) (claimant : Claimant) (w : Watch) (looked m : Nat)
    (hold : HoldRecord) : Prop where
  | renewed (old : HoldRecord) (held : ρ.Holds looked record.id old)
    (own : old.owner = claimant.holder) (eq : hold = renewal old claimant)
  | new (unheld : ρ.Unheld looked record.id)
    (alone : ρ.Alone record.id claimant.holder w looked m) (eq : hold = .new record claimant)

/-- **The grounds for writing a hold**: the slot could be held when the call looked it up, it was
not marked as being booked after that, and then its hold was looked at. -/
structure Placement (n₀ m : Nat) (slot : SlotId) (claimant : Claimant) (w : Watch)
    (hold : HoldRecord) where
  record : SlotRecord
  isSlot : record.id = slot
  /-- When the slot was looked up. -/
  admitted : Nat
  /-- When the mark of a booking was looked for. -/
  unfenced : Nat
  /-- When the hold was looked at. -/
  looked : Nat
  begun_lt : n₀ < admitted
  admitted_lt : admitted < unfenced
  unfenced_lt : unfenced < looked
  looked_lt : looked < m
  known : (ρ.catalogue admitted).get? slot = some record
  unbooked : record.booked = false
  covers : ∀ key ∈ watchedKeys ρ.policy slot claimant.holder, ρ.Covers w key unfenced
  unmarked : ρ.read? unfenced (Key.booked slot) = none
  decided : ρ.Decided record claimant w looked m hold

/-- **The grounds for taking a hold away**: the hold was looked at, and then each entry that goes
with it named its slot. -/
structure Removal (n₀ m : Nat) (slot : SlotId) (w : Watch) (hold : HoldRecord)
    (writes : List Write) where
  /-- When the hold was looked at. -/
  looked : Nat
  begun_lt : n₀ < looked
  looked_lt : looked < m
  covers : ρ.Covers w (Key.hold slot) looked
  held : ρ.Holds looked slot hold
  /-- The other keys that go. -/
  stale : List String
  writes_eq : writes = .delete (Key.hold slot) :: stale.map .delete
  named : ∀ key ∈ stale, key ∈ indexKeys hold.owner hold.session ∧
    ∃ b, looked < b ∧ b < m ∧ ρ.Covers w key b ∧ ρ.Names b key hold.slot

/-- **The grounds for marking a slot as being booked**: it was not marked, and then the claimant
owned the hold on it. -/
structure Fencing (n₀ m : Nat) (slot : SlotId) (claimant : Claimant) (w : Watch)
    (hold : HoldRecord) where
  /-- When the mark of a booking was looked for. -/
  unfenced : Nat
  /-- When the hold was looked at. -/
  looked : Nat
  begun_lt : n₀ < unfenced
  unfenced_lt : unfenced < looked
  looked_lt : looked < m
  covers : ∀ key ∈ [Key.hold slot, Key.booked slot], ρ.Covers w key unfenced
  unmarked : ρ.read? unfenced (Key.booked slot) = none
  held : ρ.Holds looked slot hold
  owned : hold.isOwnedBy claimant = true

/-- A call puts the mark of a booking on a slot. -/
def Fences (n i : Nat) (slot : SlotId) : Prop :=
  ∃ w text, ρ.Commits n i w [.put (Key.booked slot) text fenceTtl]

/-- A call books a slot in the catalogue. -/
def Books (n i : Nat) (slot : SlotId) : Prop :=
  ρ.Performs n i (.book slot) ∧ ((ρ.catalogue n).book slot).1 = .ok ()

/-- A call finds no hold on a slot, or takes it away. -/
def Clears (n i : Nat) (slot : SlotId) : Prop :=
  ρ.Unheld n slot ∨
    ∃ w stale, ρ.Commits n i w (.delete (Key.hold slot) :: List.map .delete stale)

/-- **The grounds for announcing an event**: what the call did at a move, and where it had read the day
that the event is for. -/
inductive Announcing (i n₀ : Nat) (c : Call) (p : Nat) : RoomEvent → Prop where
  | held {record : SlotRecord} {claimant : Claimant} {w : Watch} {hold : HoldRecord} {ttl : Nat}
    (acquires : c.Acquires record.id claimant)
    (grounds : ρ.Placement n₀ p record.id claimant w hold) (isRecord : grounds.record = record)
    (commits : ρ.Commits p i w (placing ρ.policy hold record.id claimant.holder ttl)) :
    Announcing i n₀ c p (.held record.id record.day (secondsUp ttl))
  | released {slot : SlotId} {claimant : Claimant} {w : Watch} {hold : HoldRecord}
    {writes : List Write} (releases : c.Releases slot claimant)
    (owned : hold.isOwnedBy claimant = true) (grounds : ρ.Removal n₀ p slot w hold writes)
    (commits : ρ.Commits p i w writes) : Announcing i n₀ c p (.released slot hold.day)
  | booked {slot : SlotId} {claimant : Claimant} {record : SlotRecord} {a : Nat}
    (commits : c = .commit slot claimant) (begun : n₀ < a) (early : a < p)
    (known : (ρ.catalogue a).get? slot = some record) (books : ρ.Books p i slot) :
    Announcing i n₀ c p (.booked slot record.day)
  | expired {key text : String} {hold : HoldRecord} (reaps : c = .reap)
    (performs : ρ.Performs p i (.store .evict))
    (evicted : (key, text) ∈ ((ρ.store p).evict (ρ.clock p)).1) (isHold : Key.isHold key = true)
    (decoded : HoldRecord.decode? text = some hold) :
    Announcing i n₀ c p (.released hold.slot hold.day)

/-! ## Everything that a call does -/

/-- **What a call does at a move**, with its grounds. -/
inductive Deed (i n₀ : Nat) (c : Call) (m : Nat) : Effect → Prop where
  | spare {e : Effect} (h : e.looks = true) : Deed i n₀ c m e
  | announce {e : RoomEvent} {p : Nat} (early : n₀ < p) (late : p < m)
    (grounds : ρ.Announcing i n₀ c p e) : Deed i n₀ c m (.announce e)
  | evict (h : c = .reap) : Deed i n₀ c m (.store .evict)
  | place {slot : SlotId} {claimant : Claimant} {w : Watch} {hold : HoldRecord} {ttl : Nat}
    (acquires : c.Acquires slot claimant) (grounds : ρ.Placement n₀ m slot claimant w hold) :
    Deed i n₀ c m (.store (.exec w (placing ρ.policy hold slot claimant.holder ttl)))
  | remove {slot : SlotId} {w : Watch} {hold : HoldRecord} {writes : List Write}
    (entitled : (∃ claimant, c.Releases slot claimant ∧ hold.isOwnedBy claimant = true) ∨
      ∃ claimant f, c = .commit slot claimant ∧ n₀ < f ∧ f < m ∧ ρ.Fences f i slot)
    (grounds : ρ.Removal n₀ m slot w hold writes) : Deed i n₀ c m (.store (.exec w writes))
  | clear {slot : SlotId} {claimant : Claimant} {w : Watch} {key : String}
    (releases : c.Releases slot claimant)
    (index : key ∈ indexKeys claimant.holder claimant.session) (b : Nat) (early : n₀ < b)
    (late : b < m) (covers : ρ.Covers w key b) (names : ρ.Names b key slot) :
    Deed i n₀ c m (.store (.exec w [.delete key]))
  | fence {slot : SlotId} {claimant : Claimant} {w : Watch} {hold : HoldRecord}
    (commits : c = .commit slot claimant) (grounds : ρ.Fencing n₀ m slot claimant w hold) :
    Deed i n₀ c m (.store (.exec w [.put (Key.booked slot) hold.owner.text fenceTtl]))
  | book {slot : SlotId} {claimant : Claimant} (commits : c = .commit slot claimant) (f : Nat)
    (early : n₀ < f) (late : f < m) (fenced : ρ.Fences f i slot) : Deed i n₀ c m (.book slot)
  | unmark {slot : SlotId} {claimant : Claimant} (commits : c = .commit slot claimant) (f : Nat)
    (early : n₀ < f) (late : f < m) (fenced : ρ.Fences f i slot)
    (once : ρ.Avoids i (.store (.delete (Key.booked slot))) f m) :
    Deed i n₀ c m (.store (.delete (Key.booked slot)))
  | forget {holder : HolderId} {session : SessionId} (ends : c = .endSession holder session) :
    Deed i n₀ c m (.store (.delete (Key.session session)))

end Run
end Holdfast.Reservation
