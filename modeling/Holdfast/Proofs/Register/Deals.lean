import Holdfast.Proofs.Register.Connections
import Holdfast.Proofs.Register.Episodes

/-!
# What one deal changes, and what another one looks at

A deal is an acquire, a release or a commit of a slot for a claimant. Alone, in a world that mirrors a
register, it comes to an upshot that the register and the entries that name the slot decide
(`Deal.run_deal`). If each connection is used by one holder only, then

* it writes keys of its slot, of its holder and of the connections of its holder only
  (`Deal.misses_upshot`), and changes the register for this holder and this slot only
  (`Deal.touched_left`);
* its upshot is the same after anything that changes the register for another holder and another slot
  only, and leaves the entries of its holder alone (`Deal.upshot_eq`).

The two keys of a holder and of a connection may name anything: entries are left behind by holds that
ran out or went another way. So a deal may well look at the slot of another one, but it takes nothing
from there and nothing that it finds there counts.
-/

namespace Holdfast

/-- The claim is made as such, or through a connection that the holder uses. -/
def Claimant.Proper (users : SessionId → HolderId) (c : Claimant) : Prop :=
  ∀ session, c.session = some session → c.holder = users session

namespace Reservation

/-! ## Changes for one holder and one slot -/

/-- **The register changed for one holder and one slot only.** -/
structure Register.Touched (slot : SlotId) (holder : HolderId) (m m' : Register) : Prop where
  clock : m'.clock = m.clock
  admission : m'.admission = m.admission
  booked : ∀ slot' ≠ slot, m'.booked slot' = m.booked slot'
  live : ∀ slot' ≠ slot, m'.live? slot' = m.live? slot'
  /-- Nobody else has or had a live hold on the slot, but one that is as it was. -/
  others : ∀ holder' ≠ holder,
    (m'.live? slot).filter (·.owner = holder') = (m.live? slot).filter (·.owner = holder')

namespace Register.Touched

variable {policy : Policy} {calendar : Calendar} {slot slot' : SlotId} {holder holder' : HolderId}
  {m m' : Register}

theorem refl : Touched slot holder m m := ⟨rfl, rfl, fun _ _ => rfl, fun _ _ => rfl, fun _ _ => rfl⟩

/-- A hold of the holder goes, or comes, where no one else has one. -/
theorem of_owned (clock : m'.clock = m.clock) (admission : m'.admission = m.admission)
    (booked : ∀ slot' ≠ slot, m'.booked slot' = m.booked slot')
    (holds : ∀ slot' ≠ slot, m'.holds.get? slot' = m.holds.get? slot')
    (before : ∀ h, m.live? slot = some h → h.owner = holder)
    (after : ∀ h, m'.live? slot = some h → h.owner = holder) : Touched slot holder m m' := by
  refine ⟨clock, admission, booked, fun slot' ne => ?_, fun holder' other => ?_⟩
  · rw [live?, live?, holds slot' ne, clock]
  · have not_theirs : ∀ {h : Held}, h.owner = holder → decide (h.owner = holder') = false :=
      fun own => decide_eq_false fun theirs => other (theirs.symm.trans own)
    rw [Option.filter_eq_none_iff.2 fun h live => by simp [not_theirs (after h live)],
      Option.filter_eq_none_iff.2 fun h live => by simp [not_theirs (before h live)]]

/-- The holder gets a hold, or renews its own. -/
theorem keep {h : Held} (own : h.owner = holder)
    (before : ∀ h, m.live? slot = some h → h.owner = holder) :
    Touched slot holder m (m.keep slot h) := by
  refine of_owned rfl rfl (fun _ _ => rfl) (fun slot' ne => m.holds.get?_insert_ne ne h) before ?_
  intro h' live
  rcases live?_keep live with ⟨-, rfl⟩ | ⟨other, -⟩
  · exact own
  · exact absurd rfl other

/-- The holder's hold is dropped. -/
theorem drop {h : Held} (live : m.live? slot = some h) (own : h.owner = holder) :
    Touched slot holder m (m.drop slot) := by
  refine of_owned rfl rfl (fun _ _ => rfl) (fun slot' ne => m.holds.get?_erase_ne ne) ?_ ?_
  · intro h' live'
    rw [live] at live'
    exact Option.some.inj live' ▸ own
  · intro h' left
    exact absurd rfl (live?_drop left).1

/-- The holder's hold becomes a booking. -/
theorem book {h : Held} (live : m.live? slot = some h) (own : h.owner = holder) :
    Touched slot holder m ((m.mark slot).drop slot) := by
  have dropped : Touched slot holder (m.mark slot) ((m.mark slot).drop slot) := drop live own
  refine ⟨rfl, rfl, fun slot' ne => ?_, dropped.live, dropped.others⟩
  show (decide (slot' = slot) || m.booked slot') = m.booked slot'
  rw [decide_eq_false ne, Bool.false_or]

/-- A claim. -/
theorem claim (policy : Policy) (m : Register) (slot : SlotId) (day : Day) (claimant : Claimant)
    (ttl : Nat) :
    Touched slot claimant.holder m (m.claim policy slot day claimant ttl).2 := by
  have claimed := m.claimed policy slot day claimant ttl
  generalize m.claim policy slot day claimant ttl = done at claimed ⊢
  obtain ⟨o, m'⟩ := done
  cases claimed with
  | refused c => exact .refl
  | renewed old live own =>
    refine .keep own fun h live' => ?_
    rw [live] at live'
    exact Option.some.inj live' ▸ own
  | new unheld alone =>
    refine .keep rfl fun h live => ?_
    rw [unheld] at live
    cases live

/-- An acquire. -/
theorem acquireFor (policy : Policy) (calendar : Calendar) (m : Register) (slot : SlotId)
    (claimant : Claimant) (ttl : Nat) :
    Touched slot claimant.holder m (m.acquireFor policy calendar slot claimant ttl).2 := by
  unfold Register.acquireFor
  cases m.openDay calendar slot with
  | error e => exact .refl
  | ok day => exact .claim policy m slot day claimant ttl

/-- A release. -/
theorem release (m : Register) (slot : SlotId) (claimant : Claimant) :
    Touched slot claimant.holder m (m.release slot claimant).2 := by
  have released := m.released slot claimant
  generalize m.release slot claimant = done at released ⊢
  obtain ⟨o, m'⟩ := done
  cases released with
  | noHold unheld => exact .refl
  | notOwner h live foreign => exact .refl
  | released h live owned => exact .drop live owned.1

/-- A commit. -/
theorem commit (calendar : Calendar) (m : Register) (slot : SlotId) (claimant : Claimant) :
    Touched slot claimant.holder m (m.commit calendar slot claimant).2 := by
  have committed := m.committed calendar slot claimant
  generalize m.commit calendar slot claimant = done at committed ⊢
  obtain ⟨r, m'⟩ := done
  cases committed with
  | failed e => exact .refl
  | noHold => exact .refl
  | notOwner => exact .refl
  | committed known free live owned => exact .book live owned.1

/-! ### What other holders are answered -/

section answers

variable (touched : Touched slot' holder' m m')

include touched

/-- Another holder's other slot is found as before. -/
theorem another?_eq (other : holder ≠ holder') (slot : SlotId) :
    m'.another? slot holder = m.another? slot holder := by
  have search : ∀ n : Register, n.another? slot holder =
      (n.holds.filter fun e => e.2.isLive n.clock && e.2.owner = holder).toList.find?
        fun e => e.1 ≠ slot := by
    intro n
    refine Eq.trans ?_ List.find?_filter.symm
    exact congrArg (List.find? · n.holds.toList) (funext fun e => by
      by_cases live : e.2.isLive n.clock <;> by_cases own : e.2.owner = holder <;> simp [live, own])
  have same : (m'.holds.filter fun e => e.2.isLive m'.clock && e.2.owner = holder) =
      m.holds.filter fun e => e.2.isLive m.clock && e.2.owner = holder := by
    apply SortedMap.ext_get?
    intro at_
    rw [SortedMap.get?_filter, SortedMap.get?_filter, ← Option.filter_filter, ← Option.filter_filter]
    by_cases there : at_ = slot'
    · subst there
      exact touched.others holder other
    · exact congrArg (Option.filter _) (touched.live at_ there)
  rw [search, search, same]

variable (apart : slot ≠ slot') {claimant : Claimant}

include apart

/-- A claim of another slot for another holder comes to the same. -/
theorem claim_eq (other : claimant.holder ≠ holder') (day : Day) (ttl : Nat) :
    (m'.claim policy slot day claimant ttl).1 = (m.claim policy slot day claimant ttl).1 := by
  unfold Register.claim
  rw [touched.live slot apart, touched.another?_eq other slot, touched.clock]
  cases m.live? slot with
  | some h => dsimp only; split <;> rfl
  | none => dsimp only; split <;> rfl

/-- An acquire of another slot for another holder comes to the same. -/
theorem acquireFor_eq (other : claimant.holder ≠ holder') (ttl : Nat) :
    (m'.acquireFor policy calendar slot claimant ttl).1 =
      (m.acquireFor policy calendar slot claimant ttl).1 := by
  have opened : m'.openDay calendar slot = m.openDay calendar slot := by
    unfold openDay
    rw [touched.admission, touched.booked slot apart]
  unfold Register.acquireFor
  rw [opened]
  cases m.openDay calendar slot with
  | error e => rfl
  | ok day => exact congrArg Except.ok (touched.claim_eq apart other day ttl)

/-- A release of another slot comes to the same. -/
theorem release_eq (claimant : Claimant) :
    (m'.release slot claimant).1 = (m.release slot claimant).1 := by
  unfold Register.release
  rw [touched.live slot apart]
  cases m.live? slot with
  | none => rfl
  | some h => dsimp only; split <;> rfl

/-- A commit of another slot comes to the same. -/
theorem commit_eq (calendar : Calendar) (claimant : Claimant) :
    (m'.commit calendar slot claimant).1 = (m.commit calendar slot claimant).1 := by
  unfold Register.commit
  rw [touched.live slot apart, touched.booked slot apart]
  cases calendar slot with
  | none => rfl
  | some day =>
    dsimp only
    split
    · rfl
    · cases m.live? slot with
      | none => rfl
      | some h => dsimp only; split <;> rfl

end answers
end Register.Touched

/-! ## Deals -/

/-- What is done with a slot. -/
inductive Dealing where
  | acquire (ttl : Nat)
  | release
  | commit

/-- An acquire, a release or a commit of a slot for a claimant. -/
structure Deal where
  slot : SlotId
  claimant : Claimant
  dealing : Dealing

/-- The call of a deal. -/
def Deal.call (d : Deal) : Call :=
  match d.dealing with
  | .acquire ttl => .acquire d.slot d.claimant ttl
  | .release => .release d.slot d.claimant
  | .commit => .commit d.slot d.claimant

/-- What a deal comes to. -/
structure Upshot where
  answer : Except Failure Answer
  /-- What it writes to the store. -/
  writes : List Write
  /-- Does it book its slot? -/
  books : Bool

namespace Upshot

/-- The world with what a deal does to the store and to the catalogue. -/
def apply (u : Upshot) (slot : SlotId) (w : World) : World :=
  { w.write u.writes with
    catalogue := if u.books then (w.catalogue.book slot).2 else w.catalogue }

/-- An acquire writes the hold that it comes to. -/
def ofAcquire (policy : Policy) (slot : SlotId) : Except Failure AcquireOutcome → Upshot
  | .ok (.acquired hold ttl renewed) =>
    { answer := .ok (.acquire (.acquired hold ttl renewed))
      writes := placing policy hold slot hold.owner ttl, books := false }
  | r => { answer := r.map .acquire, writes := [], books := false }

/-- A release takes away the hold, and the entries that name the slot. -/
def ofRelease (slot : SlotId) (stale : List String) (o : ReleaseOutcome) : Upshot :=
  { answer := .ok (.release o), writes := o.writes slot stale, books := false }

/-- A commit marks the slot, books it and takes away the hold and the entries that name the slot. -/
def ofCommit (slot : SlotId) (holder : HolderId) (stale : List String) :
    Except Failure CommitOutcome → Upshot
  | .ok (.committed day) =>
    { answer := .ok (.commit (.committed day))
      writes := .put (Key.booked slot) holder.text fenceTtl :: .delete (Key.hold slot) ::
        stale.map .delete
      books := true }
  | r => { answer := r.map .commit, writes := [], books := false }

end Upshot

namespace Deal

/-- What a deal comes to in a world that mirrors a register. -/
def upshot (policy : Policy) (calendar : Calendar) (w : World) (m : Register) : Deal → Upshot
  | ⟨slot, claimant, .acquire ttl⟩ =>
    .ofAcquire policy slot (m.acquireFor policy calendar slot claimant ttl).1
  | ⟨slot, claimant, .release⟩ =>
    .ofRelease slot (w.stale slot (m.leaver slot claimant)) (m.release slot claimant).1
  | ⟨slot, claimant, .commit⟩ =>
    .ofCommit slot claimant.holder (w.stale slot (m.leaver slot claimant))
      (m.commit calendar slot claimant).1

/-- The register that a deal leaves. -/
def left (policy : Policy) (calendar : Calendar) (m : Register) : Deal → Register
  | ⟨slot, claimant, .acquire ttl⟩ => (m.acquireFor policy calendar slot claimant ttl).2
  | ⟨slot, claimant, .release⟩ => (m.release slot claimant).2
  | ⟨slot, claimant, .commit⟩ => (m.commit calendar slot claimant).2

variable {policy : Policy} {calendar : Calendar} {w : World} {m : Register}

/-- **A deal comes to its upshot.** -/
theorem run_deal (mirrors : w.Mirrors policy calendar m) (attempts : 1 ≤ policy.maxAttempts)
    (d : Deal) : ∃ metrics rooms, w.run (d.call.program policy) =
      ((d.upshot policy calendar w m).answer,
        { (d.upshot policy calendar w m).apply d.slot w with metrics, rooms }) := by
  obtain ⟨slot, claimant, dealing⟩ := d
  cases dealing with
  | acquire ttl =>
    obtain ⟨metrics, rooms, run⟩ := mirrors.run_acquireFor attempts slot claimant ttl
    refine ⟨metrics, rooms, (World.run_then run Answer.acquire).trans ?_⟩
    rw [upshot]
    generalize (m.acquireFor policy calendar slot claimant ttl).1 = r
    rcases r with e | o
    · rfl
    · cases o <;> rfl
  | release =>
    obtain ⟨metrics, rooms, run⟩ := mirrors.run_release attempts slot claimant
    exact ⟨metrics, rooms, World.run_then run Answer.release⟩
  | commit =>
    obtain ⟨metrics, rooms, run⟩ := mirrors.run_commit attempts slot claimant
    have ran := World.run_then run Answer.commit
    rw [upshot]
    generalize (m.commit calendar slot claimant).1 = r at ran ⊢
    rcases r with e | o
    · exact ⟨w.metrics, w.rooms, ran⟩
    · cases o with
      | committed day => exact ⟨metrics, rooms, ran⟩
      | noHold => exact ⟨w.metrics, w.rooms, ran⟩
      | notOwner => exact ⟨w.metrics, w.rooms, ran⟩

/-- After a deal the world mirrors the register that is left. -/
theorem mirrors_deal (mirrors : w.Mirrors policy calendar m) (attempts : 1 ≤ policy.maxAttempts)
    (d : Deal) :
    (w.run (d.call.program policy)).2.Mirrors policy calendar (d.left policy calendar m) := by
  obtain ⟨slot, claimant, dealing⟩ := d
  cases dealing with
  | acquire ttl =>
    simp only [call, Call.program, World.run_map]
    exact (mirrors.follows_acquireFor attempts slot claimant ttl).2
  | release =>
    simp only [call, Call.program, World.run_map]
    exact (mirrors.follows_release attempts slot claimant).2
  | commit =>
    simp only [call, Call.program, World.run_map]
    exact (mirrors.follows_commit attempts slot claimant).2

/-- **A deal changes the register for its holder and its slot only.** -/
theorem touched_left (policy : Policy) (calendar : Calendar) (m : Register) (d : Deal) :
    Register.Touched d.slot d.claimant.holder m (d.left policy calendar m) := by
  obtain ⟨slot, claimant, dealing⟩ := d
  cases dealing with
  | acquire ttl => exact .acquireFor policy calendar m slot claimant ttl
  | release => exact .release m slot claimant
  | commit => exact .commit calendar m slot claimant

end Deal

/-! ## The keys of a deal -/

/-- Who owns a hold with a connection is the user of that. -/
def Register.Owned (users : SessionId → HolderId) (m : Register) : Prop :=
  ∀ slot h, m.live? slot = some h → ∀ session, h.session = some session → h.owner = users session

/-- A live hold on the slot is the claimant's, if there is one. -/
def Register.Undisputed (m : Register) (slot : SlotId) (claimant : Claimant) : Prop :=
  ∀ h, m.live? slot = some h → h.OwnedBy claimant

namespace Register.Undisputed

variable {m : Register} {slot : SlotId} {claimant : Claimant} {h : Held}

/-- There is none. -/
theorem of_unheld (unheld : m.live? slot = none) : m.Undisputed slot claimant := by
  intro h live
  rw [unheld] at live
  cases live

/-- There is one, and the claimant owns it. -/
theorem of_live (live : m.live? slot = some h) (own : h.OwnedBy claimant) :
    m.Undisputed slot claimant := by
  intro h' live'
  rw [live] at live'
  exact Option.some.inj live' ▸ own

end Register.Undisputed

/-- The key is that of the holder's entry, or of the entry of a connection that the holder uses. -/
def IsEntryOf (users : SessionId → HolderId) (holder : HolderId) (key : String) : Prop :=
  key = Key.holder holder ∨ ∃ session, users session = holder ∧ key = Key.session session

namespace IsEntryOf

variable {users : SessionId → HolderId} {holder holder' : HolderId} {key : String}

/-- The entries of a claimant are those of the holder, and of a connection that it uses. -/
theorem of_index {c : Claimant} (proper : c.Proper users)
    (index : key ∈ indexKeys c.holder c.session) : IsEntryOf users c.holder key := by
  unfold indexKeys at index
  simp only [List.mem_append, List.mem_singleton, Option.mem_toList, Option.map_eq_some_iff] at index
  rcases index with rfl | ⟨session, connected, rfl⟩
  · exact .inl rfl
  · exact .inr ⟨session, (proper session connected).symm, rfl⟩

/-- No key is one of two holders'. -/
theorem disjoint (other : holder ≠ holder') (mine : IsEntryOf users holder key) :
    ¬ IsEntryOf users holder' key := by
  rintro (rfl | ⟨session', user', rfl⟩)
  · rcases mine with same | ⟨session, user, same⟩
    · exact other (Key.holder_inj same).symm
    · exact Key.holder_ne_session holder' session same
  · rcases mine with same | ⟨session, user, same⟩
    · exact Key.holder_ne_session holder session' same.symm
    · rw [Key.session_inj same] at user'
      exact other (user.symm.trans user')

/-- The key of an entry is not that of a hold. -/
theorem ne_hold (mine : IsEntryOf users holder key) (slot : SlotId) : Key.hold slot ≠ key := by
  rcases mine with rfl | ⟨session, -, rfl⟩
  · exact Key.hold_ne_holder slot holder
  · exact Key.hold_ne_session slot session

/-- The key of an entry is not that of the mark of a booking. -/
theorem ne_booked (mine : IsEntryOf users holder key) (slot : SlotId) : Key.booked slot ≠ key := by
  rcases mine with rfl | ⟨session, -, rfl⟩
  · exact Key.booked_ne_holder slot holder
  · exact Key.booked_ne_session slot session

end IsEntryOf

namespace Deal

variable {policy : Policy} {calendar : Calendar} {users : SessionId → HolderId} {w w' : World}
  {m m' : Register} {d d' : Deal} {key : String}

/-- The keys of a deal: of the hold on its slot and of its booking, and of the holder's entries. -/
def Touches (users : SessionId → HolderId) (d : Deal) (key : String) : Prop :=
  key = Key.hold d.slot ∨ key = Key.booked d.slot ∨ IsEntryOf users d.claimant.holder key

/-- No key is one of two deals on different slots for different holders. -/
theorem Touches.disjoint (slots : d.slot ≠ d'.slot) (holders : d.claimant.holder ≠ d'.claimant.holder)
    (mine : d.Touches users key) : ¬ d'.Touches users key := by
  rintro (rfl | rfl | entry)
  · rcases mine with same | same | entry
    · exact slots (Key.hold_inj same).symm
    · exact Key.hold_ne_booked _ _ same
    · exact entry.ne_hold _ rfl
  · rcases mine with same | same | entry
    · exact Key.hold_ne_booked _ _ same.symm
    · exact slots (Key.booked_inj same).symm
    · exact entry.ne_booked _ rfl
  · rcases mine with rfl | rfl | entry'
    · exact entry.ne_hold _ rfl
    · exact entry.ne_booked _ rfl
    · exact entry'.disjoint holders entry

/-- Whoever may release a slot takes entries of the claimant's holder away with it. -/
theorem entry_of_leaver {slot : SlotId} {claimant : Claimant} (proper : claimant.Proper users)
    (owned : m.Owned users) (undisputed : m.Undisputed slot claimant)
    (index : key ∈ indexKeys (m.leaver slot claimant).holder (m.leaver slot claimant).session) :
    IsEntryOf users claimant.holder key := by
  cases live : m.live? slot with
  | none =>
    rw [Register.leaver_of_unheld live] at index
    exact .of_index proper index
  | some h =>
    rw [Register.leaver, live] at index
    rw [← (undisputed h live).1]
    exact .of_index (c := ⟨h.owner, h.session⟩) (owned slot h live) index

/-- The writes that take away entries of the holder miss all other keys. -/
theorem misses_stale_leaver {slot : SlotId} {claimant : Claimant} (proper : claimant.Proper users)
    (owned : m.Owned users) (undisputed : m.Undisputed slot claimant)
    (other : ¬ IsEntryOf users claimant.holder key) :
    Write.Misses ((w.stale slot (m.leaver slot claimant)).map .delete) key :=
  .deletes fun mem => other (entry_of_leaver proper owned undisputed (World.mem_stale.1 mem).1)

/-- What a claim writes misses all keys but that of the hold and of the holder's entries. -/
theorem misses_claim {slot : SlotId} {claimant : Claimant} (proper : claimant.Proper users)
    (owned : m.Owned users) (hold_ne : Key.hold slot ≠ key)
    (no_entry : ¬ IsEntryOf users claimant.holder key) (day : Day) (ttl : Nat) :
    Write.Misses
      (Upshot.ofAcquire policy slot (.ok (m.claim policy slot day claimant ttl).1)).writes key := by
  -- If a hold is written, it is one of the claimant's holder, who uses the connection of it.
  have places : ∀ h : Held, h.owner = claimant.holder →
      (∀ session, h.session = some session → h.owner = users session) →
      Write.Misses (placing policy (h.record slot) slot h.owner ttl) key := by
    intro h own connected
    refine misses_placing_of_ne hold_ne ?_ ?_
    · rintro - rfl
      exact no_entry (.inl (congrArg Key.holder own))
    · rintro session through rfl
      exact no_entry (.inr ⟨session, (connected session through).symm.trans own, rfl⟩)
  have claimed := m.claimed policy slot day claimant ttl
  generalize m.claim policy slot day claimant ttl = done at claimed ⊢
  obtain ⟨o, left⟩ := done
  cases claimed with
  | refused c => exact fun _ mem => nomatch mem
  | renewed old live own =>
    let renewed : Held :=
      { old with session := claimant.session.or old.session, deadline := m.clock + ttl }
    refine places renewed own fun session through => ?_
    rcases Option.or_eq_some_iff.1 through with mine | ⟨-, before⟩
    · exact own.trans (proper session mine)
    · exact owned slot old live session before
  | new unheld alone =>
    exact places ⟨claimant.holder, claimant.session, day, m.clock + ttl⟩ rfl proper

/-- **A deal writes its own keys only.** -/
theorem misses_upshot (proper : d.claimant.Proper users) (owned : m.Owned users)
    (other : ¬ d.Touches users key) :
    Write.Misses (d.upshot policy calendar w m).writes key := by
  obtain ⟨slot, claimant, dealing⟩ := d
  have hold_ne : Key.hold slot ≠ key := fun same => other (.inl same.symm)
  have booked_ne : Key.booked slot ≠ key := fun same => other (.inr (.inl same.symm))
  have no_entry : ¬ IsEntryOf users claimant.holder key := fun entry => other (.inr (.inr entry))
  have nothing : Write.Misses [] key := fun _ mem => nomatch mem
  cases dealing with
  | acquire ttl =>
    rw [upshot, Register.acquireFor]
    cases m.openDay calendar slot with
    | error e => exact nothing
    | ok day => exact misses_claim proper owned hold_ne no_entry day ttl
  | release =>
    rw [upshot]
    have released := m.released slot claimant
    generalize m.release slot claimant = done at released ⊢
    obtain ⟨o, left⟩ := done
    cases released with
    | noHold unheld =>
      exact misses_stale_leaver proper owned (.of_unheld unheld) no_entry
    | notOwner h live foreign => exact nothing
    | released h live own =>
      exact .cons hold_ne (misses_stale_leaver proper owned (.of_live live own) no_entry)
  | commit =>
    rw [upshot]
    have committed := m.committed calendar slot claimant
    generalize m.commit calendar slot claimant = done at committed ⊢
    obtain ⟨r, left⟩ := done
    cases committed with
    | failed e => exact nothing
    | noHold => exact nothing
    | notOwner => exact nothing
    | committed known free live own =>
      exact .cons booked_ne (.cons hold_ne
        (misses_stale_leaver proper owned (.of_live live own) no_entry))

/-- **After a deal on another slot for another holder, a deal comes to the same.** -/
theorem upshot_eq (proper : d.claimant.Proper users) (owned : m.Owned users)
    {slot' : SlotId} {holder' : HolderId} (touched : Register.Touched slot' holder' m m')
    (slots : d.slot ≠ slot') (holders : d.claimant.holder ≠ holder')
    (names : ∀ key, IsEntryOf users d.claimant.holder key → w'.names? key = w.names? key) :
    d.upshot policy calendar w' m' = d.upshot policy calendar w m := by
  obtain ⟨slot, claimant, dealing⟩ := d
  have stale : m.Undisputed slot claimant →
      w'.stale slot (m'.leaver slot claimant) = w.stale slot (m.leaver slot claimant) := by
    intro undisputed
    have leaver : m'.leaver slot claimant = m.leaver slot claimant := by
      rw [Register.leaver, touched.live slot slots, Register.leaver]
    rw [leaver]
    exact List.filter_congr fun key index => by
      rw [names key (entry_of_leaver proper owned undisputed index)]
  cases dealing with
  | acquire ttl =>
    exact congrArg (Upshot.ofAcquire policy slot) (touched.acquireFor_eq slots holders ttl)
  | release =>
    rw [upshot, upshot, touched.release_eq slots claimant]
    have released := m.released slot claimant
    generalize m.release slot claimant = done at released ⊢
    obtain ⟨o, left⟩ := done
    cases released with
    | noHold unheld =>
      exact congrArg (Upshot.ofRelease slot · .noHold) (stale (.of_unheld unheld))
    | notOwner h live foreign => rfl
    | released h live own =>
      exact congrArg (Upshot.ofRelease slot · (.released h.day)) (stale (.of_live live own))
  | commit =>
    rw [upshot, upshot, touched.commit_eq slots calendar claimant]
    have committed := m.committed calendar slot claimant
    generalize m.commit calendar slot claimant = done at committed ⊢
    obtain ⟨r, left⟩ := done
    cases committed with
    | failed e => rfl
    | noHold => rfl
    | notOwner => rfl
    | committed known free live own =>
      exact congrArg (Upshot.ofCommit slot claimant.holder · _) (stale (.of_live live own))

end Deal
end Reservation
end Holdfast
