import Holdfast.Proofs.Register.Alone

/-!
# Acquiring follows the register

An acquire that runs alone comes to what the register's does (`follows_acquireFor`). All that it
does to the store is told by its outcome (`World.settle`, `run_acquireFor`). The one step in which
the two differ is how another slot of the holder is found: the acquire goes by the holder's entry and
looks whether there is still a hold of the holder where it leads to, and the register goes through
all holds.
-/

namespace Holdfast.Reservation

/-- The world with what an acquire writes that comes to the outcome. -/
def World.settle (policy : Policy) (w : World) (slot : SlotId) : AcquireOutcome → World
  | .acquired hold ttl _ => w.write (placing policy hold slot hold.owner ttl)
  | .conflict _ => w

namespace World.Mirrors

variable {policy : Policy} {calendar : Calendar} {w : World} {m : Register} {slot : SlotId}
  {day : Day} {claimant : Claimant} {ttl : Nat} (mirrors : w.Mirrors policy calendar m)

/-- A slot that can be held is not booked. -/
theorem free_of_openDay (isOpen : m.openDay calendar slot = .ok day) : m.booked slot = false := by
  unfold Register.openDay at isOpen
  cases booked : m.booked slot with
  | false => rfl
  | true =>
    rw [booked] at isOpen
    split at isOpen
    · cases isOpen
    · split at isOpen <;> cases isOpen

include mirrors

/-- **What an acquire writes is what the register's claim keeps.** -/
theorem settle {o : AcquireOutcome} {m' : Register}
    (claimed : m.Claimed policy slot day claimant ttl o m') :
    (w.settle policy slot o).Mirrors policy calendar m' := by
  cases claimed with
  | refused c => exact mirrors
  | renewed old live own =>
    refine mirrors.keep (h := { old with
      session := claimant.session.or old.session, deadline := m.clock + ttl }) rfl ?_
    intro single slot' h' live' owned
    exact mirrors.eq_of_same_owner single live' live owned
  | new unheld alone =>
    refine mirrors.keep (h := ⟨claimant.holder, claimant.session, day, m.clock + ttl⟩) rfl ?_
    intro single slot' h' live' owned
    exact Register.eq_of_another?_eq_none (alone single) live' owned

/-- Finding out whether a slot can be held. -/
theorem run_openSlot (slot : SlotId) :
    w.run (openSlot slot) =
      ((m.openDay calendar slot).map fun day => ⟨slot, day, m.booked slot⟩, w) := by
  have asked : w.run Reservation.admission = (.ok m.admission, w) := by
    rw [← mirrors.admission]
    rfl
  unfold openSlot Register.openDay
  rw [run_seq asked]
  cases m.admission with
  | closed => rfl
  | days enabled =>
    cases known : calendar slot with
    | none =>
      rw [run_seq_error (mirrors.run_find_unknown known)]
      rfl
    | some day =>
      rw [run_seq (mirrors.run_find known)]
      cases booked : m.booked slot with
      | true => rfl
      | false =>
        cases isOpen : enabled.contains day with
        | false =>
          simp [isOpen, Except.map]
        | true =>
          simp [isOpen, Except.map]
          rfl

omit mirrors in
/-- Writing a hold of the claimant. -/
theorem run_place {watch : Watch} (sees : w.Sees watch) {hold : HoldRecord}
    (own : hold.owner = claimant.holder) (renewed : Bool) :
    w.run (place policy watch slot claimant hold ttl renewed) =
      (.ok (some (.acquired hold ttl renewed)),
        w.settle policy slot (.acquired hold ttl renewed)) := by
  rw [World.settle, own]
  exact run_transact sees _ _

/-- Telling of a conflict over a live hold. -/
theorem run_conflictOver {h : Held} (live : m.live? slot = some h) (conflict : Nat → Conflict) :
    w.run (conflictOver (Key.hold slot) conflict) =
      (.ok (some (.conflict (conflict (h.deadline - m.clock)))), w) := by
  have left := mirrors.remaining?_hold slot
  rw [live, Option.map_some] at left
  show ((.ok ((w.store.remaining? w.clock (Key.hold slot)).map _) : Except Failure _), w) = _
  rw [left]
  rfl

/-- Asking what the holder's entry names, where that matters. -/
theorem run_otherSlot (slot : SlotId) (holder : HolderId) :
    w.run (otherSlot policy slot holder) =
      (.ok (if policy.singleHold then (w.names? (Key.holder holder)).filter (· ≠ slot) else none),
        w) := by
  unfold otherSlot
  cases policy.singleHold with
  | false => rfl
  | true =>
    have index : Key.holder holder ∈ indexKeys holder none := List.mem_cons_self
    simp only [if_true]
    rw [run_seq (mirrors.legible.run_readIndex index)]
    rfl

omit mirrors in
/-- Writing a new hold, when a search finds none that is in the way. -/
theorem run_placeFresh {watch : Watch} (sees : w.Sees watch) (unheld : m.live? slot = none)
    (missing : (if policy.singleHold then m.another? slot claimant.holder else none) = none) :
    w.run (place policy watch slot claimant (.new ⟨slot, day, false⟩ claimant) ttl false) =
      (.ok (some (m.claim policy slot day claimant ttl).1),
        w.settle policy slot (m.claim policy slot day claimant ttl).1) := by
  have claimed : (m.claim policy slot day claimant ttl).1 =
      .acquired (.new ⟨slot, day, false⟩ claimant) ttl false := by
    unfold Register.claim
    rw [unheld, missing]
    rfl
  rw [claimed]
  exact run_place sees rfl false

/-- **Acquiring a slot without a hold.** The holder's entry leads to what a search finds. -/
theorem run_placeNew {watch : Watch} (sees : w.Sees watch) (unheld : m.live? slot = none) :
    w.run (placeNew policy watch ⟨slot, day, false⟩ claimant ttl) =
      (.ok (some (m.claim policy slot day claimant ttl).1),
        w.settle policy slot (m.claim policy slot day claimant ttl).1) := by
  unfold placeNew
  rw [run_seq (mirrors.run_otherSlot slot claimant.holder)]
  cases single : policy.singleHold with
  | false =>
    simp only [Bool.false_eq_true, if_false]
    exact run_placeFresh sees unheld (by rw [single]; rfl)
  | true =>
    have search := mirrors.another?_eq single slot claimant.holder
    simp only [if_true]
    cases leads : (w.names? (Key.holder claimant.holder)).filter (· ≠ slot) with
    | none =>
      rw [leads, Option.bind_none] at search
      exact run_placeFresh sees unheld (by rw [single, if_pos rfl, search])
    | some other =>
      rw [leads, Option.bind_some] at search
      dsimp only
      rw [run_seq (run_watch w [Key.hold other]), run_seq (mirrors.run_readHold other)]
      have later := sees.merge (w.sees_watch [Key.hold other])
      cases live : m.live? other with
      | none =>
        rw [live] at search
        exact run_placeFresh later unheld (by rw [single, if_pos rfl, search]; rfl)
      | some h =>
        rw [live, Option.filter_some] at search
        by_cases own : h.owner = claimant.holder
        · have claimed : (m.claim policy slot day claimant ttl).1 =
              .conflict (.holderHasOther other (h.deadline - m.clock)) := by
            unfold Register.claim
            rw [unheld, single, if_pos rfl, search, if_pos (decide_eq_true own)]
            rfl
          have told : (h.record other).owner = claimant.holder := own
          simp only [Option.map_some, if_pos told]
          rw [claimed]
          exact mirrors.run_conflictOver live _
        · rw [if_neg (by simp [own])] at search
          have told : ¬ (h.record other).owner = claimant.holder := own
          simp only [Option.map_some, if_neg told]
          exact run_placeFresh later unheld (by rw [single, if_pos rfl, search]; rfl)

/-- **One attempt to acquire a slot** comes to what the register's claim does. -/
theorem run_tryAcquire (free : m.booked slot = false) :
    w.run (tryAcquire policy ⟨slot, day, false⟩ claimant ttl) =
      (.ok (some (m.claim policy slot day claimant ttl).1),
        w.settle policy slot (m.claim policy slot day claimant ttl).1) := by
  unfold tryAcquire
  rw [run_seq (run_watch w _), run_seq (mirrors.run_isFenced free)]
  simp only [Bool.false_eq_true, if_false]
  rw [run_seq (mirrors.run_readHold slot)]
  have sees := w.sees_watch (watchedKeys policy slot claimant.holder)
  cases live : m.live? slot with
  | none => exact mirrors.run_placeNew sees live
  | some h =>
    by_cases own : h.owner = claimant.holder
    · have claimed : (m.claim policy slot day claimant ttl).1 =
          .acquired (renewal (h.record slot) claimant) ttl true := by
        unfold Register.claim
        rw [live]
        simp only [if_pos own]
        rfl
      rw [claimed]
      have told : (h.record slot).owner = claimant.holder := own
      simp only [Option.map_some, if_pos told]
      exact run_place sees own true
    · have claimed : (m.claim policy slot day claimant ttl).1 =
          .conflict (.heldByOther h.owner (h.deadline - m.clock)) := by
        unfold Register.claim
        rw [live]
        simp only [if_neg own]
      rw [claimed]
      have told : ¬ (h.record slot).owner = claimant.holder := own
      simp only [Option.map_some, if_neg told]
      exact mirrors.run_conflictOver live _

/-- **An acquire comes to what the register's does**, and its outcome tells what it wrote. -/
theorem run_acquireFor (attempts : 1 ≤ policy.maxAttempts) (slot : SlotId) (claimant : Claimant)
    (ttl : Nat) :
    ∃ metrics rooms, w.run (acquireFor policy slot claimant ttl) =
      ((m.acquireFor policy calendar slot claimant ttl).1,
        { (m.acquireFor policy calendar slot claimant ttl).1.toOption.elim w
            (w.settle policy slot) with metrics, rooms }) := by
  have opened := mirrors.run_openSlot slot
  unfold acquireFor Register.acquireFor
  cases isOpen : m.openDay calendar slot with
  | error e =>
    rw [isOpen] at opened
    exact ⟨w.metrics, w.rooms, run_seq_error opened⟩
  | ok day =>
    have free := free_of_openDay isOpen
    rw [isOpen, free] at opened
    rw [run_seq opened]
    rw [run_seq (run_retrying attempts (mirrors.run_tryAcquire free))]
    show ∃ metrics rooms, _ = ((.ok (m.claim policy slot day claimant ttl).1 : Except Failure _),
      { w.settle policy slot (m.claim policy slot day claimant ttl).1 with metrics, rooms })
    cases (m.claim policy slot day claimant ttl).1 with
    | acquired hold ttl renewed => exact ⟨_, _, rfl⟩
    | conflict c => exact ⟨_, _, rfl⟩

/-- **After an acquire the world mirrors what the register is then.** -/
theorem follows_acquireFor (attempts : 1 ≤ policy.maxAttempts) (slot : SlotId)
    (claimant : Claimant) (ttl : Nat) :
    Follows policy calendar w (acquireFor policy slot claimant ttl)
      (m.acquireFor policy calendar slot claimant ttl).1
      (m.acquireFor policy calendar slot claimant ttl).2 := by
  obtain ⟨metrics, rooms, run⟩ := mirrors.run_acquireFor attempts slot claimant ttl
  refine .of_run run (Mirrors.beside ?_ metrics rooms)
  unfold Register.acquireFor
  cases m.openDay calendar slot with
  | error e => exact mirrors
  | ok day => exact mirrors.settle (m.claimed policy slot day claimant ttl)

end World.Mirrors
end Holdfast.Reservation
