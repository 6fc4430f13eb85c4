import Holdfast.Proofs.Interleaving.Run
import Holdfast.Proofs.Register.Acquire
import Holdfast.Proofs.Register.Release
import Holdfast.Proofs.SortedMap

/-!
# Reservations answer like a register

Whatever is done one after the other in a world in which nothing was stored, every answer and every
error is that of a register (`World.answers_inTurn_eq`). One errand at a time, the world answers
like the register that it mirrors and mirrors the register that is left (`World.Mirrors.serve`).
-/

namespace Holdfast.Reservation

namespace World.Mirrors

variable {policy : Policy} {calendar : Calendar} {w : World} {m : Register}
  (mirrors : w.Mirrors policy calendar m)

/-! ## Looking at a slot -/

include mirrors in
/-- **The status of a slot is what the register says.** -/
theorem run_status (slot : SlotId) : w.run (status slot) = (m.status calendar slot, w) := by
  unfold status Register.status
  cases known : calendar slot with
  | none => exact run_seq_error (mirrors.run_find_unknown known)
  | some day =>
    rw [run_seq (mirrors.run_find known), statusOf]
    cases booked : m.booked slot with
    | true => rfl
    | false =>
      simp only [Bool.false_eq_true, if_false]
      rw [run_seq (mirrors.run_readHold slot)]
      have left : w.run (ask (.remaining (Key.hold slot))) =
          (.ok ((m.live? slot).map fun h => h.deadline - m.clock), w) := by
        rw [← mirrors.remaining?_hold slot]
        rfl
      cases live : m.live? slot with
      | none => rfl
      | some h =>
        rw [live] at left
        simp only [Option.map_some]
        rw [run_seq left]
        rfl

/-! ## A pass over what ran out -/

/-- Announcing what ran out counts the holds among it. -/
theorem follows_announceExpired {evicted : List (String × String)} (before : Nat)
    (written : ∀ e ∈ evicted, Written e.1 e.2) (mirrors : w.Mirrors policy calendar m) :
    Follows policy calendar w (announceExpired before evicted)
      (.ok (before + evicted.countP (Key.isHold ·.1))) m := by
  induction evicted generalizing w before with
  | nil => exact mirrors.follows_pure before
  | cons e rest ih =>
    obtain ⟨key, text⟩ := e
    have rest_written : ∀ e ∈ rest, Written e.1 e.2 :=
      fun e mem => written e (List.mem_cons_of_mem _ mem)
    unfold announceExpired
    cases isHold : Key.isHold key with
    | false =>
      simp only [List.countP_cons, isHold, Bool.false_eq_true, if_false]
      exact ih before rest_written mirrors
    | true =>
      obtain ⟨hold, rfl, rfl⟩ := (written (key, text) List.mem_cons_self).hold_of_isHold isHold
      simp only [List.countP_cons, isHold, if_true, HoldRecord.stored, hold.decode?_encode]
      have announced : Follows policy calendar w
          (Program.perform (.announce (.released hold.slot hold.day)) : Program StoreError Unit)
          (.ok ()) m := .of_run rfl (mirrors.beside _ _)
      refine .seq announced fun w₁ mirrors₁ => ?_
      have counted := ih (before + 1) rest_written mirrors₁
      rwa [Nat.add_right_comm, Nat.add_assoc] at counted

include mirrors in
/-- The hold on a slot, if it ran out. -/
theorem ranOut_hold (slot : SlotId) :
    ((w.store.entries.filter fun e => !e.2.isLive w.clock).get? (Key.hold slot)).map Entry.content =
      ((m.holds.filter fun e => !e.2.isLive m.clock).get? slot).map (Held.content slot) := by
  rw [SortedMap.get?_filter, SortedMap.get?_filter, ← mirrors.clock]
  exact mirrors.filter_hold slot fun deadline => !decide (w.clock < deadline)

include mirrors in
/-- **Of the entries that ran out, as many are holds as the register has that ran out.** -/
theorem countP_evict :
    (w.store.evict w.clock).1.countP (Key.isHold ·.1) = m.reap.1 := by
  let gone := (w.store.entries.filter fun e => !e.2.isLive w.clock).toList
  let out := (m.holds.filter fun e => !e.2.isLive m.clock).toList
  have distinct : ((gone.filter (Key.isHold ·.1)).map (·.1)).Nodup :=
    (SortedMap.nodup_keys _).sublist (List.filter_sublist.map _)
  have distinct' : (out.map fun e => Key.hold e.1).Nodup :=
    List.pairwise_map.2 ((SortedMap.sorted _).imp fun lt same =>
      KeyOrder.ne_of_lt lt (Key.hold_inj same))
  have same : ((gone.filter (Key.isHold ·.1)).map (·.1)).Perm (out.map fun e => Key.hold e.1) := by
    refine (List.perm_ext_iff_of_nodup distinct distinct').2 ?_
    intro key
    rw [List.mem_map, List.mem_map]
    constructor
    · rintro ⟨⟨key, e⟩, mem, rfl⟩
      obtain ⟨mem, isHold⟩ := List.mem_filter.1 mem
      have there := (SortedMap.mem_toList_iff _).1 mem
      have before := there
      rw [SortedMap.get?_filter, Option.filter_eq_some_iff] at before
      obtain ⟨hold, rfl, -⟩ := (mirrors.written key e before.1).hold_of_isHold isHold
      have found := mirrors.ranOut_hold hold.slot
      rw [there, Option.map_some, eq_comm, Option.map_eq_some_iff] at found
      obtain ⟨h, there', -⟩ := found
      exact ⟨(hold.slot, h), (SortedMap.mem_toList_iff _).2 there', rfl⟩
    · rintro ⟨⟨slot, h⟩, mem, rfl⟩
      have found := mirrors.ranOut_hold slot
      rw [(SortedMap.mem_toList_iff _).1 mem, Option.map_some, Option.map_eq_some_iff] at found
      obtain ⟨e, there, -⟩ := found
      have mem' := (SortedMap.mem_toList_iff _).2 there
      exact ⟨(Key.hold slot, e), List.mem_filter.2 ⟨mem', Key.isHold_hold slot⟩, rfl⟩
  have lengths := same.length_eq
  rw [List.length_map, List.length_map, ← List.countP_eq_length_filter] at lengths
  rw [Store.evict, List.countP_map]
  exact lengths

include mirrors in
/-- **A pass counts the holds that the register takes away.** -/
theorem follows_reap : Follows policy calendar w reap (.ok m.reap.1) m.reap.2 := by
  let w' : World := { w with store := (w.store.evict w.clock).2 }
  have evicted : w.run ((Program.perform (.store .evict)).bind
      (Program.orFail StoreError.unavailable)) = (.ok (w.store.evict w.clock).1, w') := rfl
  have written : ∀ e ∈ (w.store.evict w.clock).1, Written e.1 e.2 := by
    intro reported mem
    obtain ⟨⟨key, e⟩, gone, rfl⟩ := List.mem_map.1 mem
    have there := (SortedMap.mem_toList_iff _).1 gone
    rw [SortedMap.get?_filter, Option.filter_eq_some_iff] at there
    exact mirrors.written key e there.1
  unfold reap Follows
  rw [run_seq evicted]
  have announced := follows_announceExpired 0 written mirrors.evict
  rw [Nat.zero_add, mirrors.countP_evict] at announced
  refine Follows.seq announced fun w₁ mirrors₁ => ?_
  have counted : Follows policy calendar w₁
      (Program.perform (.count .holdsReaped m.reap.1) : Program StoreError Unit) (.ok ())
      m.reap.2 :=
    .of_run rfl (mirrors₁.beside _ _)
  exact .seq counted fun w₂ mirrors₂ => mirrors₂.follows_pure _

end World.Mirrors

/-! ## One errand after the other -/

/-- A world runs an errand. -/
def World.serve (policy : Policy) (w : World) : Errand → Errand.Answer × World
  | .acquire slot claimant => (w.run (acquire policy slot claimant)).map .acquire id
  | .acquireFor slot claimant ttl => (w.run (acquireFor policy slot claimant ttl)).map .acquire id
  | .release slot claimant => (w.run (release policy slot claimant)).map .release id
  | .commit slot claimant => (w.run (commit policy slot claimant)).map .commit id
  | .status slot => (w.run (status slot)).map .status id
  | .reap => (w.run reap).map .reap id
  | .book slot => (w.perform (.book slot)).map .book id
  | .regulate a => (.done, { w with admission := a })
  | .wait milliseconds => (.done, { w with clock := w.clock + milliseconds })

/-- **One errand**: the world answers like the register, and mirrors the register that is left. -/
theorem World.Mirrors.serve {policy : Policy} {calendar : Calendar} {w : World} {m : Register}
    (mirrors : w.Mirrors policy calendar m) (attempts : 1 ≤ policy.maxAttempts) (e : Errand) :
    (w.serve policy e).1 = (m.serve policy calendar e).1 ∧
      (w.serve policy e).2.Mirrors policy calendar (m.serve policy calendar e).2 := by
  cases e with
  | acquire slot claimant =>
    exact (mirrors.follows_acquireFor attempts slot claimant policy.ttl).imp_left (congrArg _)
  | acquireFor slot claimant ttl =>
    exact (mirrors.follows_acquireFor attempts slot claimant ttl).imp_left (congrArg _)
  | release slot claimant =>
    exact (mirrors.follows_release attempts slot claimant).imp_left (congrArg _)
  | commit slot claimant =>
    exact (mirrors.follows_commit attempts slot claimant).imp_left (congrArg _)
  | status slot =>
    have followed : Follows policy calendar w (status slot) (m.status calendar slot) m :=
      .of_run (mirrors.run_status slot) mirrors
    exact followed.imp_left (congrArg _)
  | reap => exact mirrors.follows_reap.imp_left (congrArg _)
  | book slot => exact (mirrors.book slot).imp_left (congrArg _)
  | regulate a => exact ⟨rfl, mirrors.regulate a⟩
  | wait milliseconds => exact ⟨rfl, mirrors.wait milliseconds⟩

/-- **Whatever is done one after the other, the answers are those of a register.** -/
theorem World.answers_inTurn_eq (policy : Policy) (attempts : 1 ≤ policy.maxAttempts) (w : World)
    (unused : w.store.entries = .empty) (errands : List Errand) :
    (Errand.inTurn (World.serve policy) w errands).1 =
      (Errand.inTurn (Register.serve policy w.calendar) w.register errands).1 := by
  have start : w.Mirrors policy w.calendar w.register := .of_unused unused
  exact (Errand.inTurn_of_related (fun _ _ e mirrors => mirrors.serve attempts e) start errands).1

/-- A holder of one slot is refused another one, holds it when the first hold has run out, and
commits it. -/
def movingOn : List Errand :=
  [.acquireFor 1 { holder := ⟨"a"⟩ } 100, .acquireFor 2 { holder := ⟨"a"⟩ } 100, .wait 40,
    .acquire 1 { holder := ⟨"b"⟩ }, .wait 60, .release 1 { holder := ⟨"a"⟩ },
    .acquire 2 { holder := ⟨"a"⟩ }, .commit 2 { holder := ⟨"a"⟩ }, .status 2, .reap]

/-- What a holder is answered that moves on to another slot. -/
theorem World.answers_movingOn :
    1 ≤ ({} : Policy).maxAttempts ∧
      (World.offering Run.openingDay [1, 2]).store.entries = .empty ∧
      (Errand.inTurn (World.serve {}) (.offering Run.openingDay [1, 2]) movingOn).1 =
        [.acquire (.ok (.acquired ⟨⟨"a"⟩, none, 1, Run.openingDay, .empty⟩ 100 false)),
          .acquire (.ok (.conflict (.holderHasOther 1 100))), .done,
          .acquire (.ok (.conflict (.heldByOther ⟨"a"⟩ 60))), .done, .release (.ok .noHold),
          .acquire (.ok (.acquired ⟨⟨"a"⟩, none, 2, Run.openingDay, .empty⟩ 120000 false)),
          .commit (.ok (.committed Run.openingDay)), .status (.ok .booked), .reap (.ok 1)] := by
  refine ⟨by decide, rfl, ?_⟩
  exact (World.answers_inTurn_eq {} (by decide) _ rfl movingOn).trans rfl

end Holdfast.Reservation
