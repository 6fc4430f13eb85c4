import Holdfast.Reservation.Failure
import Holdfast.Reservation.Outcome

/-!
# Registers

What reservations come to when one is made after the other, told without a store. A register keeps
for each slot the hold on it, if there is one, with its deadline, and whether the slot is booked.
Nothing beside the holds says what a holder holds: another slot that it holds is found by going
through all holds (`Register.another?`). There is no mark of a booking that could run out either.

Which slots there are and on which days is fixed: a calendar.
-/

namespace Holdfast.Reservation

/-- The slots that there are, with their days. -/
abbrev Calendar := SlotId → Option Day

/-- A hold in a register. -/
structure Held where
  owner : HolderId
  session : Option SessionId
  day : Day
  /-- The first instant at which the hold is no longer live. -/
  deadline : Nat
  deriving DecidableEq

namespace Held

/-- Does the hold last? -/
def isLive (now : Nat) (h : Held) : Bool := now < h.deadline

/-- The claimant is the owner, and claims as such or through the connection of the hold. -/
def OwnedBy (h : Held) (c : Claimant) : Prop :=
  h.owner = c.holder ∧ (c.session = none ∨ c.session = h.session)

instance (h : Held) (c : Claimant) : Decidable (h.OwnedBy c) :=
  inferInstanceAs (Decidable (_ ∧ _))

/-- The hold with its slot, as it is told. -/
def record (slot : SlotId) (h : Held) : HoldRecord :=
  { owner := h.owner, session := h.session, slot, day := h.day }

/-- To own a hold is to own what is told of it. -/
theorem isOwnedBy_record (slot : SlotId) (h : Held) (c : Claimant) :
    (h.record slot).isOwnedBy c = decide (h.OwnedBy c) := by
  rw [Bool.eq_iff_iff, decide_eq_true_iff, OwnedBy]
  unfold HoldRecord.isOwnedBy record
  rw [Bool.and_eq_true, decide_eq_true_iff]
  refine and_congr_right fun _ => ?_
  cases c.session with
  | none => simp only [Option.all_none, true_or]
  | some s =>
    rw [Option.all_some, decide_eq_true_iff, eq_comm]
    simp only [reduceCtorEq, false_or]

end Held

/-- A register, with the time and the days that can be held. -/
structure Register where
  holds : SortedMap SlotId Held := .empty
  booked : SlotId → Bool
  admission : Admission
  clock : Nat

namespace Register

variable (policy : Policy) (calendar : Calendar) (m : Register)

/-- The live hold on a slot. -/
def live? (slot : SlotId) : Option Held := (m.holds.get? slot).filter (·.isLive m.clock)

/-- A live hold of the holder on another slot. -/
def another? (slot : SlotId) (holder : HolderId) : Option (SlotId × Held) :=
  m.holds.toList.find? fun (other, h) => other ≠ slot ∧ h.owner = holder ∧ h.isLive m.clock

/-- The register with a hold, in place of the one on the slot. -/
def keep (slot : SlotId) (h : Held) : Register := { m with holds := m.holds.insert slot h }

/-- The register without the hold on a slot. -/
def drop (slot : SlotId) : Register := { m with holds := m.holds.erase slot }

/-- The register with a slot booked. -/
def mark (slot : SlotId) : Register :=
  { m with booked := fun other => other = slot || m.booked other }

/-! ## Operations -/

/-- The day of a slot that can be held at present. -/
def openDay (slot : SlotId) : Except Failure Day :=
  match m.admission with
  | .closed => .error .noActivePeriod
  | .days enabled =>
    match calendar slot with
    | none => .error (.slotNotFound slot)
    | some day =>
      if m.booked slot then .error (.slotBooked slot)
      else if enabled.contains day then .ok day
      else .error (.dayNotEnabled day enabled.days)

/-- Gives the claimant a hold on a slot, unless that would be against a hold that there is. -/
def claim (slot : SlotId) (day : Day) (claimant : Claimant) (ttl : Nat) :
    AcquireOutcome × Register :=
  match m.live? slot with
  | some h =>
    if h.owner = claimant.holder then
      let renewed : Held :=
        { h with session := claimant.session.or h.session, deadline := m.clock + ttl }
      (.acquired (renewed.record slot) ttl true, m.keep slot renewed)
    else (.conflict (.heldByOther h.owner (h.deadline - m.clock)), m)
  | none =>
    match if policy.singleHold then m.another? slot claimant.holder else none with
    | some (other, h) => (.conflict (.holderHasOther other (h.deadline - m.clock)), m)
    | none =>
      let new : Held := ⟨claimant.holder, claimant.session, day, m.clock + ttl⟩
      (.acquired (new.record slot) ttl false, m.keep slot new)

/-- Acquires a slot for some time. -/
def acquireFor (slot : SlotId) (claimant : Claimant) (ttl : Nat) :
    Except Failure AcquireOutcome × Register :=
  match m.openDay calendar slot with
  | .error e => (.error e, m)
  | .ok day => (m.claim policy slot day claimant ttl).map .ok id

/-- Releases a slot. -/
def release (slot : SlotId) (claimant : Claimant) : ReleaseOutcome × Register :=
  match m.live? slot with
  | none => (.noHold, m)
  | some h => if h.OwnedBy claimant then (.released h.day, m.drop slot) else (.notOwner, m)

/-- Books the slot that the claimant holds. -/
def commit (slot : SlotId) (claimant : Claimant) : Except Failure CommitOutcome × Register :=
  match calendar slot with
  | none => (.error (.slotNotFound slot), m)
  | some day =>
    if m.booked slot then (.error (.slotBooked slot), m)
    else
      match m.live? slot with
      | none => (.ok .noHold, m)
      | some h =>
        if h.OwnedBy claimant then (.ok (.committed day), (m.mark slot).drop slot)
        else (.ok .notOwner, m)

/-- The status of a slot. -/
def status (slot : SlotId) : Except Failure SlotStatus :=
  match calendar slot with
  | none => .error (.slotNotFound slot)
  | some _ =>
    if m.booked slot then .ok .booked
    else
      match m.live? slot with
      | none => .ok .free
      | some h => .ok (.held h.owner (h.deadline - m.clock))

/-- Takes away the holds that ran out, and says how many there were. -/
def reap : Nat × Register :=
  ((m.holds.filter fun e => !e.2.isLive m.clock).size,
    { m with holds := m.holds.filter fun e => e.2.isLive m.clock })

/-- Books a slot that nobody needs to hold. -/
def book (slot : SlotId) : Except CatalogueError Unit × Register :=
  match calendar slot with
  | none => (.error (.unknown slot), m)
  | some _ =>
    if m.booked slot then (.error (.alreadyBooked slot), m) else (.ok (), m.mark slot)

/-! ## What is live -/

section live

variable {m} {slot slot' : SlotId} {h h' : Held}

/-- A hold is live until its deadline. -/
theorem live?_eq_some_iff :
    m.live? slot = some h ↔ m.holds.get? slot = some h ∧ m.clock < h.deadline := by
  rw [live?, Option.filter_eq_some_iff, Held.isLive, decide_eq_true_iff]

/-- Another slot of the holder is one with a live hold of the holder. -/
theorem of_another? {holder : HolderId} (found : m.another? slot holder = some (slot', h)) :
    slot' ≠ slot ∧ h.owner = holder ∧ m.live? slot' = some h := by
  have isSuch := List.find?_some found
  have there := List.mem_of_find?_eq_some found
  simp only [decide_eq_true_eq] at isSuch
  obtain ⟨other, owned, live⟩ := isSuch
  exact ⟨other, owned, live?_eq_some_iff.2
    ⟨m.holds.mem_toList_iff.1 there, of_decide_eq_true live⟩⟩

/-- If the search finds no other slot, no other slot has a live hold of the holder. -/
theorem eq_of_another?_eq_none {holder : HolderId} (missing : m.another? slot holder = none)
    (live : m.live? slot' = some h) (owned : h.owner = holder) : slot' = slot := by
  obtain ⟨there, early⟩ := live?_eq_some_iff.1 live
  refine Decidable.byContradiction fun other => ?_
  have isNone := List.find?_eq_none.1 missing (slot', h) (m.holds.mem_toList_iff.2 there)
  exact isNone (decide_eq_true ⟨other, owned, decide_eq_true early⟩)

/-- The hold that is kept is on its slot, and the other slots stay as they are. -/
theorem live?_keep (kept : (m.keep slot h).live? slot' = some h') :
    slot' = slot ∧ h' = h ∨ slot' ≠ slot ∧ m.live? slot' = some h' := by
  obtain ⟨there, early⟩ := live?_eq_some_iff.1 kept
  by_cases same : slot' = slot
  · subst same
    rw [keep, SortedMap.get?_insert_self] at there
    exact .inl ⟨rfl, (Option.some.inj there).symm⟩
  · rw [keep, SortedMap.get?_insert_ne _ same] at there
    exact .inr ⟨same, live?_eq_some_iff.2 ⟨there, early⟩⟩

/-- What is live after a hold is dropped was live before, on another slot. -/
theorem live?_drop (left : (m.drop slot).live? slot' = some h') :
    slot' ≠ slot ∧ m.live? slot' = some h' := by
  obtain ⟨there, early⟩ := live?_eq_some_iff.1 left
  have other : slot' ≠ slot := by
    rintro rfl
    rw [drop, SortedMap.get?_erase_self] at there
    cases there
  rw [drop, SortedMap.get?_erase_ne _ other] at there
  exact ⟨other, live?_eq_some_iff.2 ⟨there, early⟩⟩

/-- What is live on another slot than that of a dropped hold stays. -/
theorem live?_drop_of_ne (other : slot' ≠ slot) (live : m.live? slot' = some h) :
    (m.drop slot).live? slot' = some h := by
  obtain ⟨there, early⟩ := live?_eq_some_iff.1 live
  refine live?_eq_some_iff.2 ⟨?_, early⟩
  rwa [drop, SortedMap.get?_erase_ne _ other]

/-- After a hold is dropped, its slot is without one. -/
theorem live?_drop_self : (m.drop slot).live? slot = none := by
  rw [Option.eq_none_iff_forall_ne_some]
  exact fun h left => (live?_drop left).1 rfl

/-- What is live after a pass was live before. -/
theorem live?_reap (left : m.reap.2.live? slot = some h) : m.live? slot = some h := by
  obtain ⟨there, early⟩ := live?_eq_some_iff.1 left
  rw [reap, SortedMap.get?_filter, Option.filter_eq_some_iff] at there
  exact live?_eq_some_iff.2 ⟨there.1, early⟩

end live

/-! ## What claims, releases and commits do -/

/-- **What a claim does**: nothing, or it keeps a hold of the claimant for the time that was asked
for. This renews the claimant's own hold, or the slot is without one and so is the claimant, where
that matters. -/
inductive Claimed (policy : Policy) (m : Register) (slot : SlotId) (day : Day) (claimant : Claimant)
    (ttl : Nat) : AcquireOutcome → Register → Prop where
  | refused (c : Conflict) : Claimed policy m slot day claimant ttl (.conflict c) m
  | renewed (old : Held) (live : m.live? slot = some old) (own : old.owner = claimant.holder) :
    Claimed policy m slot day claimant ttl
      (.acquired (Held.record slot { old with
        session := claimant.session.or old.session, deadline := m.clock + ttl }) ttl true)
      (m.keep slot { old with
        session := claimant.session.or old.session, deadline := m.clock + ttl })
  | new (unheld : m.live? slot = none)
    (alone : policy.singleHold = true → m.another? slot claimant.holder = none) :
    Claimed policy m slot day claimant ttl
      (.acquired (Held.record slot ⟨claimant.holder, claimant.session, day, m.clock + ttl⟩) ttl false)
      (m.keep slot ⟨claimant.holder, claimant.session, day, m.clock + ttl⟩)

/-- A claim does nothing else. -/
theorem claimed (policy : Policy) (m : Register) (slot : SlotId) (day : Day) (claimant : Claimant)
    (ttl : Nat) : m.Claimed policy slot day claimant ttl (m.claim policy slot day claimant ttl).1
      (m.claim policy slot day claimant ttl).2 := by
  unfold claim
  cases live : m.live? slot with
  | some old =>
    by_cases own : old.owner = claimant.holder
    · simp only [if_pos own]
      exact .renewed old live own
    · simp only [if_neg own]
      exact .refused _
  | none =>
    cases found : (if policy.singleHold then m.another? slot claimant.holder else none) with
    | some other => exact .refused _
    | none =>
      refine .new live fun single => ?_
      rwa [single, if_pos rfl] at found

/-- **What a release does**: it drops the hold that the claimant owns, or nothing. -/
inductive Released (m : Register) (slot : SlotId) (claimant : Claimant) :
    ReleaseOutcome → Register → Prop where
  | noHold (unheld : m.live? slot = none) : Released m slot claimant .noHold m
  | notOwner (h : Held) (live : m.live? slot = some h) (foreign : ¬ h.OwnedBy claimant) :
    Released m slot claimant .notOwner m
  | released (h : Held) (live : m.live? slot = some h) (owned : h.OwnedBy claimant) :
    Released m slot claimant (.released h.day) (m.drop slot)

/-- A release does nothing else. -/
theorem released (m : Register) (slot : SlotId) (claimant : Claimant) :
    m.Released slot claimant (m.release slot claimant).1 (m.release slot claimant).2 := by
  unfold release
  cases live : m.live? slot with
  | none => exact .noHold live
  | some h =>
    by_cases owned : h.OwnedBy claimant
    · simp only [if_pos owned]
      exact .released h live owned
    · simp only [if_neg owned]
      exact .notOwner h live owned

/-- **What a commit does**: it books the slot whose hold the claimant owns, and drops the hold, or
nothing. -/
inductive Committed (calendar : Calendar) (m : Register) (slot : SlotId) (claimant : Claimant) :
    Except Failure CommitOutcome → Register → Prop where
  | failed (e : Failure) : Committed calendar m slot claimant (.error e) m
  | noHold : Committed calendar m slot claimant (.ok .noHold) m
  | notOwner : Committed calendar m slot claimant (.ok .notOwner) m
  | committed {day : Day} {h : Held} (known : calendar slot = some day)
    (free : m.booked slot = false) (live : m.live? slot = some h) (owned : h.OwnedBy claimant) :
    Committed calendar m slot claimant (.ok (.committed day)) ((m.mark slot).drop slot)

/-- A commit does nothing else. -/
theorem committed (calendar : Calendar) (m : Register) (slot : SlotId) (claimant : Claimant) :
    m.Committed calendar slot claimant (m.commit calendar slot claimant).1
      (m.commit calendar slot claimant).2 := by
  unfold commit
  cases known : calendar slot with
  | none => exact .failed _
  | some day =>
    cases booked : m.booked slot with
    | true => exact .failed _
    | false =>
      cases live : m.live? slot with
      | none => exact .noHold
      | some h =>
        by_cases owned : h.OwnedBy claimant
        · simp only [if_pos owned]
          exact .committed known booked live owned
        · simp only [if_neg owned]
          exact .notOwner

end Register

/-! ## One after the other -/

/-- Something that is done while nothing else goes on. -/
inductive Errand where
  | acquire (slot : SlotId) (claimant : Claimant)
  | acquireFor (slot : SlotId) (claimant : Claimant) (ttl : Nat)
  | release (slot : SlotId) (claimant : Claimant)
  | commit (slot : SlotId) (claimant : Claimant)
  | status (slot : SlotId)
  | reap
  /-- Book a slot past all holds. -/
  | book (slot : SlotId)
  | regulate (a : Admission)
  | wait (milliseconds : Nat)

/-- What comes of it. -/
inductive Errand.Answer where
  | acquire (r : Except Failure AcquireOutcome)
  | release (r : Except Failure ReleaseOutcome)
  | commit (r : Except Failure CommitOutcome)
  | status (r : Except Failure SlotStatus)
  | reap (r : Except StoreError Nat)
  | book (r : Except CatalogueError Unit)
  | done

/-- The answers to errands that are run one after the other, and what is left behind. -/
def Errand.inTurn {σ : Type} (serve : σ → Errand → Answer × σ) (s : σ) :
    List Errand → List Answer × σ
  | [] => ([], s)
  | e :: rest =>
    let (a, s) := serve s e
    (inTurn serve s rest).map (a :: ·) id

namespace Errand

/-- **Two that answer alike and stay related answer alike all the way.** -/
theorem inTurn_of_related {σ τ : Type} {serve : σ → Errand → Answer × σ}
    {serve' : τ → Errand → Answer × τ} {R : σ → τ → Prop}
    (step : ∀ s t e, R s t →
      (serve s e).1 = (serve' t e).1 ∧ R (serve s e).2 (serve' t e).2)
    {s : σ} {t : τ} (start : R s t) (errands : List Errand) :
    (inTurn serve s errands).1 = (inTurn serve' t errands).1 ∧
      R (inTurn serve s errands).2 (inTurn serve' t errands).2 := by
  induction errands generalizing s t with
  | nil => exact ⟨rfl, start⟩
  | cons e rest ih =>
    obtain ⟨same, related⟩ := step s t e start
    obtain ⟨later, final⟩ := ih related
    refine ⟨?_, final⟩
    show (serve s e).1 :: _ = (serve' t e).1 :: _
    rw [same, later]

end Errand

/-- A register runs an errand. -/
def Register.serve (policy : Policy) (calendar : Calendar) (m : Register) :
    Errand → Errand.Answer × Register
  | .acquire slot claimant =>
    (m.acquireFor policy calendar slot claimant policy.ttl).map .acquire id
  | .acquireFor slot claimant ttl =>
    (m.acquireFor policy calendar slot claimant ttl).map .acquire id
  | .release slot claimant => (m.release slot claimant).map (.release ∘ .ok) id
  | .commit slot claimant => (m.commit calendar slot claimant).map .commit id
  | .status slot => (.status (m.status calendar slot), m)
  | .reap => m.reap.map (.reap ∘ .ok) id
  | .book slot => (m.book calendar slot).map .book id
  | .regulate a => (.done, { m with admission := a })
  | .wait milliseconds => (.done, { m with clock := m.clock + milliseconds })

end Holdfast.Reservation
