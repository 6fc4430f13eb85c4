import Holdfast.Proofs.Register.Snapshot
import Holdfast.Proofs.Register.Listing
import Mathlib.Data.Set.Function

/-!
# Other names

Holders and connections get other names (`Renaming`), which tell apart those that have to be told
apart. What is about holders and connections is renamed with them: claimants, holds, and the outcomes
that name somebody.

A register with the same holds under other names (`Register.Renamed`) does the same for renamed
claimants: it comes to the renamed outcomes and is left with the same holds under other names. A
register asks of a name only whether it is another one.
-/

namespace Holdfast

/-- **Other names for holders and connections.** Those among `holders` and `sessions` stay apart. -/
structure Renaming where
  holder : HolderId → HolderId
  session : SessionId → SessionId
  holders : Set HolderId
  sessions : Set SessionId
  holder_injOn : Set.InjOn holder holders
  session_injOn : Set.InjOn session sessions

/-- A claimant under another name. -/
def Claimant.rename (ρ : Renaming) (c : Claimant) : Claimant :=
  { holder := ρ.holder c.holder, session := c.session.map ρ.session }

/-- A hold whose owner has another name. -/
def HoldRecord.rename (ρ : Renaming) (h : HoldRecord) : HoldRecord :=
  { h with owner := ρ.holder h.owner, session := h.session.map ρ.session }

/-- The claimant is among those who stay apart. -/
def Renaming.Covers (ρ : Renaming) (c : Claimant) : Prop :=
  c.holder ∈ ρ.holders ∧ ∀ session, c.session = some session → session ∈ ρ.sessions

/-- A connection has the other name of one of those that stay apart if it is that one. -/
theorem Renaming.map_session_eq_iff {ρ : Renaming} {session? : Option SessionId} {s : SessionId}
    (covers : ∀ s', session? = some s' → s' ∈ ρ.sessions) (covered : s ∈ ρ.sessions) :
    session?.map ρ.session = some (ρ.session s) ↔ session? = some s := by
  refine ⟨fun named => ?_, fun named => congrArg (Option.map ρ.session) named⟩
  obtain ⟨s', theirs, same⟩ := Option.map_eq_some_iff.1 named
  rw [theirs, ρ.session_injOn (covers s' theirs) covered same]

namespace Reservation

variable (ρ : Renaming)

/-- A conflict with somebody under another name. -/
def Conflict.rename : Conflict → Conflict
  | heldByOther owner ttl => .heldByOther (ρ.holder owner) ttl
  | holderHasOther slot ttl => .holderHasOther slot ttl

/-- What an acquire comes to under another name. -/
def AcquireOutcome.rename : AcquireOutcome → AcquireOutcome
  | acquired hold ttl renewed => .acquired (hold.rename ρ) ttl renewed
  | conflict c => .conflict (c.rename ρ)

/-- The status of a slot that somebody holds under another name. -/
def SlotStatus.rename : SlotStatus → SlotStatus
  | free => .free
  | held owner ttl => .held (ρ.holder owner) ttl
  | booked => .booked

/-- A row that shows another name. -/
def HoldRow.rename (r : HoldRow) : HoldRow := { r with owner := ρ.holder r.owner }

/-- A hold in a register under another name. -/
def Held.rename (h : Held) : Held :=
  { h with owner := ρ.holder h.owner, session := h.session.map ρ.session }

/-- Who has a hold. -/
def Held.claimant (h : Held) : Claimant := { holder := h.owner, session := h.session }

/-- **The same register under other names**, of which all are told apart. -/
structure Register.Renamed (m n : Register) : Prop where
  clock : n.clock = m.clock
  admission : n.admission = m.admission
  booked : n.booked = m.booked
  holds : ∀ slot, n.holds.get? slot = (m.holds.get? slot).map (Held.rename ρ)
  covers : ∀ slot h, m.holds.get? slot = some h → ρ.Covers h.claimant

variable {ρ}

/-- **To own a hold under another name is to own it.** -/
theorem Held.ownedBy_rename {h : Held} {c : Claimant} (covers : ρ.Covers h.claimant)
    (covers' : ρ.Covers c) : (h.rename ρ).OwnedBy (c.rename ρ) ↔ h.OwnedBy c := by
  have sessions : c.session.map ρ.session = h.session.map ρ.session ↔ c.session = h.session := by
    rw [eq_comm, eq_comm (a := c.session)]
    cases mine : c.session with
    | none => exact Option.map_eq_none_iff
    | some s => exact Renaming.map_session_eq_iff covers.2 (covers'.2 s mine)
  exact and_congr (ρ.holder_injOn.eq_iff covers.1 covers'.1)
    (or_congr Option.map_eq_none_iff sessions)

/-- Whoever is told of a hold is told of one that there is. -/
theorem Register.kept_of_acquireFor {policy : Policy} {calendar : Calendar} {m : Register}
    {slot : SlotId} {claimant : Claimant} {ttl ttl' : Nat} {hold : HoldRecord} {renewed : Bool}
    (got : (m.acquireFor policy calendar slot claimant ttl).1 = .ok (.acquired hold ttl' renewed)) :
    ∃ h : Held, (m.acquireFor policy calendar slot claimant ttl).2.holds.get? slot = some h ∧
      hold = h.record slot := by
  unfold acquireFor at got ⊢
  cases isOpen : m.openDay calendar slot with
  | error e =>
    rw [isOpen] at got
    cases got
  | ok day =>
    have claimed := m.claimed policy slot day claimant ttl
    have told : (m.claim policy slot day claimant ttl).1 = .acquired hold ttl' renewed := by
      rw [isOpen] at got
      exact Except.ok.inj got
    rw [told] at claimed
    show ∃ h : Held, (m.claim policy slot day claimant ttl).2.holds.get? slot = some h ∧ _
    generalize (m.claim policy slot day claimant ttl).2 = m' at claimed ⊢
    cases claimed with
    | renewed => exact ⟨_, SortedMap.get?_insert_self _ _ _, rfl⟩
    | new => exact ⟨_, SortedMap.get?_insert_self _ _ _, rfl⟩

namespace Register.Renamed

variable {policy : Policy} {calendar : Calendar} {m n : Register} {slot : SlotId} {day : Day}
  {claimant : Claimant} {h : Held}

/-- Without holds nobody has a name. -/
theorem of_unheld (unheld : m.holds = .empty) : m.Renamed ρ m := by
  have nothing : ∀ slot, m.holds.get? slot = none := fun slot => by rw [unheld]; rfl
  refine ⟨rfl, rfl, rfl, fun slot => ?_, fun slot h there => ?_⟩
  · rw [nothing]
    rfl
  · rw [nothing] at there
    cases there

/-! ## What is found -/

section looking

variable (renamed : m.Renamed ρ n)

include renamed

/-- The live hold on a slot. -/
theorem live? (slot : SlotId) : n.live? slot = (m.live? slot).map (Held.rename ρ) := by
  unfold Register.live?
  rw [renamed.holds, renamed.clock, Option.filter_map]
  rfl

/-- Who has a live hold is covered. -/
theorem covers_live (live : m.live? slot = some h) : ρ.Covers h.claimant :=
  renamed.covers slot h (live?_eq_some_iff.1 live).1

/-- Another slot of a holder is found under another name. -/
theorem another? (slot : SlotId) {holder : HolderId} (covers : holder ∈ ρ.holders) :
    n.another? slot (ρ.holder holder) =
      (m.another? slot holder).map (Prod.map id (Held.rename ρ)) := by
  unfold Register.another?
  rw [SortedMap.toList_of_get? renamed.holds, List.find?_map]
  congr 1
  rw [← List.head?_filter, ← List.head?_filter]
  refine congrArg List.head? (List.filter_congr fun ⟨other, h⟩ mem => ?_)
  have theirs := (renamed.covers other h ((SortedMap.mem_toList_iff _).1 mem)).1
  have same : ρ.holder h.owner = ρ.holder holder ↔ h.owner = holder :=
    ρ.holder_injOn.eq_iff theirs covers
  rw [renamed.clock]
  exact decide_eq_decide.2 (and_congr_right fun _ => and_congr same Iff.rfl)

/-- The same slots can be held. -/
theorem openDay (slot : SlotId) : n.openDay calendar slot = m.openDay calendar slot := by
  unfold Register.openDay
  rw [renamed.admission, renamed.booked]

/-- The status of a slot. -/
theorem status (slot : SlotId) :
    n.status calendar slot = (m.status calendar slot).map (SlotStatus.rename ρ) := by
  unfold Register.status
  rw [renamed.booked, renamed.live?, renamed.clock]
  cases calendar slot with
  | none => rfl
  | some day =>
    cases m.booked slot with
    | true => rfl
    | false => cases m.live? slot <;> rfl

/-- The rows of all live holds. -/
theorem rows : n.rows = m.rows.map (HoldRow.rename ρ) := by
  have same : ∀ slot, (n.holds.filter (·.2.isLive n.clock)).get? slot =
      ((m.holds.filter (·.2.isLive m.clock)).get? slot).map (Held.rename ρ) := by
    intro slot
    rw [SortedMap.get?_filter, SortedMap.get?_filter]
    exact renamed.live? slot
  unfold Register.rows
  rw [SortedMap.toList_of_get? same, List.map_map, List.map_map, renamed.clock]
  rfl

/-- A snapshot shows no names. -/
theorem shot (day : Day) (slots : List SlotId) : n.shot day slots = m.shot day slots := by
  have shown : n.heldSlot? = m.heldSlot? := by
    funext slot
    unfold heldSlot?
    rw [renamed.booked, renamed.live?, renamed.clock, Option.map_map]
    rfl
  unfold Register.shot
  rw [shown, renamed.booked]

/-- Whose entries go with a release. -/
theorem leaver (slot : SlotId) (claimant : Claimant) :
    n.leaver slot (claimant.rename ρ) = (m.leaver slot claimant).rename ρ := by
  unfold Register.leaver
  rw [renamed.live?]
  cases m.live? slot <;> rfl

/-- They are covered, too. -/
theorem covers_leaver (slot : SlotId) (covers : ρ.Covers claimant) :
    ρ.Covers (m.leaver slot claimant) := by
  unfold Register.leaver
  cases live : m.live? slot with
  | none => exact covers
  | some h => exact renamed.covers_live live

end looking

/-! ## What is done -/

section doing

variable (renamed : m.Renamed ρ n)

include renamed

/-- A hold is kept. -/
theorem keep (slot : SlotId) (covers : ρ.Covers h.claimant) :
    (m.keep slot h).Renamed ρ (n.keep slot (h.rename ρ)) := by
  refine ⟨renamed.clock, renamed.admission, renamed.booked, fun slot' => ?_, fun slot' h' there => ?_⟩
  · by_cases same : slot' = slot
    · subst same
      rw [Register.keep, Register.keep, SortedMap.get?_insert_self, SortedMap.get?_insert_self]
      rfl
    · rw [Register.keep, Register.keep, SortedMap.get?_insert_ne _ same,
        SortedMap.get?_insert_ne _ same]
      exact renamed.holds slot'
  · by_cases same : slot' = slot
    · subst same
      rw [Register.keep, SortedMap.get?_insert_self] at there
      exact Option.some.inj there ▸ covers
    · rw [Register.keep, SortedMap.get?_insert_ne _ same] at there
      exact renamed.covers slot' h' there

/-- Of the holds, those are left that pass a test that names do not matter to. -/
theorem filter (m' n' : Register) {p q : SlotId × Held → Bool} (holds : m'.holds = m.holds.filter p)
    (holds' : n'.holds = n.holds.filter q) (same : ∀ slot h, q (slot, h.rename ρ) = p (slot, h))
    (clock : n'.clock = m'.clock) (admission : n'.admission = m'.admission)
    (booked : n'.booked = m'.booked) : m'.Renamed ρ n' := by
  refine ⟨clock, admission, booked, fun slot => ?_, fun slot h there => ?_⟩
  · rw [holds, holds', SortedMap.get?_filter, SortedMap.get?_filter, renamed.holds, Option.filter_map]
    exact congrArg (Option.map _) (congrArg (Option.filter · _) (funext fun h => same slot h))
  · rw [holds, SortedMap.get?_filter, Option.filter_eq_some_iff] at there
    exact renamed.covers slot h there.1

/-- A hold is dropped. -/
theorem drop (slot : SlotId) : (m.drop slot).Renamed ρ (n.drop slot) :=
  renamed.filter _ _ rfl rfl (fun _ _ => rfl) renamed.clock renamed.admission renamed.booked

/-- A slot is booked. -/
theorem mark (slot : SlotId) : (m.mark slot).Renamed ρ (n.mark slot) := by
  refine ⟨renamed.clock, renamed.admission, ?_, renamed.holds, renamed.covers⟩
  unfold Register.mark
  rw [renamed.booked]

/-- **A claim under another name** comes to the same, under other names. -/
theorem claim (policy : Policy) (slot : SlotId) (day : Day) (covers : ρ.Covers claimant) (ttl : Nat) :
    (n.claim policy slot day (claimant.rename ρ) ttl).1 =
        (m.claim policy slot day claimant ttl).1.rename ρ ∧
      (m.claim policy slot day claimant ttl).2.Renamed ρ
        (n.claim policy slot day (claimant.rename ρ) ttl).2 := by
  unfold Register.claim
  rw [renamed.live?, renamed.clock]
  cases live : m.live? slot with
  | some h =>
    have theirs := renamed.covers_live live
    have same : (h.rename ρ).owner = (claimant.rename ρ).holder ↔ h.owner = claimant.holder :=
      ρ.holder_injOn.eq_iff theirs.1 covers.1
    by_cases own : h.owner = claimant.holder
    · have connected : (claimant.session.map ρ.session).or (h.session.map ρ.session) =
          (claimant.session.or h.session).map ρ.session := by cases claimant.session <;> rfl
      simp only [Option.map_some, if_pos own, if_pos (same.2 own)]
      have kept := renamed.keep slot (h := { h with
        session := claimant.session.or h.session, deadline := m.clock + ttl }) ⟨theirs.1, ?_⟩
      · unfold Held.rename at kept ⊢
        simp only [Claimant.rename, connected]
        exact ⟨rfl, kept⟩
      · intro session chosen
        rcases Option.or_eq_some_iff.1 chosen with mine | ⟨-, before⟩
        · exact covers.2 session mine
        · exact theirs.2 session before
    · simp only [Option.map_some, if_neg own, if_neg (mt same.1 own)]
      exact ⟨rfl, renamed⟩
  | none =>
    have found : (if policy.singleHold then n.another? slot (claimant.rename ρ).holder else none) =
        (if policy.singleHold then m.another? slot claimant.holder else none).map
          (Prod.map id (Held.rename ρ)) := by
      cases policy.singleHold with
      | false => rfl
      | true => exact renamed.another? slot covers.1
    simp only [Option.map_none, found]
    cases if policy.singleHold then m.another? slot claimant.holder else none with
    | some other => exact ⟨rfl, renamed⟩
    | none => exact ⟨rfl, renamed.keep slot (h := ⟨_, _, _, _⟩) covers⟩

/-- An acquire under another name comes to the same, under other names. -/
theorem acquireFor (policy : Policy) (calendar : Calendar) (slot : SlotId)
    (covers : ρ.Covers claimant) (ttl : Nat) :
    (n.acquireFor policy calendar slot (claimant.rename ρ) ttl).1 =
        (m.acquireFor policy calendar slot claimant ttl).1.map (AcquireOutcome.rename ρ) ∧
      (m.acquireFor policy calendar slot claimant ttl).2.Renamed ρ
        (n.acquireFor policy calendar slot (claimant.rename ρ) ttl).2 := by
  unfold Register.acquireFor
  rw [renamed.openDay]
  cases m.openDay calendar slot with
  | error e => exact ⟨rfl, renamed⟩
  | ok day =>
    obtain ⟨same, left⟩ := renamed.claim policy slot day covers ttl
    exact ⟨congrArg Except.ok same, left⟩

/-- **A release under another name** comes to the same. -/
theorem release (slot : SlotId) (covers : ρ.Covers claimant) :
    (n.release slot (claimant.rename ρ)).1 = (m.release slot claimant).1 ∧
      (m.release slot claimant).2.Renamed ρ (n.release slot (claimant.rename ρ)).2 := by
  unfold Register.release
  rw [renamed.live?]
  cases live : m.live? slot with
  | none => exact ⟨rfl, renamed⟩
  | some h =>
    have same := Held.ownedBy_rename (renamed.covers_live live) covers
    by_cases owned : h.OwnedBy claimant
    · dsimp only [Option.map_some]
      rw [if_pos owned, if_pos (same.2 owned)]
      exact ⟨rfl, renamed.drop slot⟩
    · dsimp only [Option.map_some]
      rw [if_neg owned, if_neg (mt same.1 owned)]
      exact ⟨rfl, renamed⟩

/-- **A commit under another name** comes to the same. -/
theorem commit (calendar : Calendar) (slot : SlotId) (covers : ρ.Covers claimant) :
    (n.commit calendar slot (claimant.rename ρ)).1 = (m.commit calendar slot claimant).1 ∧
      (m.commit calendar slot claimant).2.Renamed ρ
        (n.commit calendar slot (claimant.rename ρ)).2 := by
  unfold Register.commit
  rw [renamed.live?, renamed.booked]
  cases calendar slot with
  | none => exact ⟨rfl, renamed⟩
  | some day =>
    cases m.booked slot with
    | true => exact ⟨rfl, renamed⟩
    | false =>
      cases live : m.live? slot with
      | none => exact ⟨rfl, renamed⟩
      | some h =>
        have same := Held.ownedBy_rename (renamed.covers_live live) covers
        by_cases owned : h.OwnedBy claimant
        · simp only [Option.map_some, if_pos owned, if_pos (same.2 owned)]
          exact ⟨rfl, (renamed.mark slot).drop slot⟩
        · simp only [Option.map_some, if_neg owned, if_neg (mt same.1 owned)]
          exact ⟨rfl, renamed⟩

/-- A pass takes away the same holds. -/
theorem reap : n.reap.1 = m.reap.1 ∧ m.reap.2.Renamed ρ n.reap.2 := by
  have left : m.reap.2.Renamed ρ n.reap.2 := by
    refine renamed.filter _ _ rfl rfl (fun slot h => ?_) renamed.clock renamed.admission renamed.booked
    rw [renamed.clock]
    rfl
  have gone : ∀ slot, (n.holds.filter fun e => !e.2.isLive n.clock).get? slot =
      ((m.holds.filter fun e => !e.2.isLive m.clock).get? slot).map (Held.rename ρ) := by
    intro slot
    rw [SortedMap.get?_filter, SortedMap.get?_filter, renamed.holds, renamed.clock, Option.filter_map]
    rfl
  have lengths := congrArg List.length (SortedMap.toList_of_get? gone)
  rw [List.length_map] at lengths
  exact ⟨lengths, left⟩

/-- A slot is booked past all holds. -/
theorem book (slot : SlotId) : (m.book calendar slot).2.Renamed ρ (n.book calendar slot).2 := by
  unfold Register.book
  rw [renamed.booked]
  cases calendar slot with
  | none => exact renamed
  | some day =>
    cases m.booked slot with
    | true => exact renamed
    | false => exact renamed.mark slot

end doing
end Register.Renamed
end Reservation
end Holdfast
