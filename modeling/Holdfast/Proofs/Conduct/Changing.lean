import Holdfast.Proofs.Conduct.Deciding

/-!
# Changes of a slot and their announcements

What a call hears concerns a slot if the slot is changed by it, or if one of its events is announced.
There are three ways in which a call can have to do with a slot.

* `Changes`: what a call hears when it changes a slot.
* `Silent`: nothing of what was heard concerns the slot.
* `Reporting`: the three ways. `Reporting.pairwise` and `reported` say what they have in common.
-/

namespace Holdfast.Reservation

open Program

variable {policy : Policy} {c : Call} {slot : SlotId} {claimant : Claimant} {t u : List Heard}
  {h : Heard} {e : RoomEvent}

/-! ## Changes -/

/-- **What a call hears when it changes a slot**: its transaction to write a hold or to take one away
was committed, its booking was accepted, or a hold was evicted. -/
inductive Changes (policy : Policy) (c : Call) : Heard → SlotId → Prop where
  | held {slot : SlotId} {claimant : Claimant} (w : Watch) (hold : HoldRecord) (ttl : Nat)
    (acquires : c.Acquires slot claimant) :
    Changes policy c (committed w (placing policy hold slot claimant.holder ttl)) slot
  | released {slot : SlotId} {claimant : Claimant} (w : Watch) (stale : List String)
    (releases : c.Releases slot claimant) :
    Changes policy c (committed w (.delete (Key.hold slot) :: stale.map .delete)) slot
  | booked {slot : SlotId} {claimant : Claimant} (commits : c = .commit slot claimant) :
    Changes policy c (booking slot) slot
  | expired {evicted : List (String × String)} {hold : HoldRecord} (reaps : c = .reap)
    (mem : (Key.hold hold.slot, hold.encode) ∈ evicted) :
    Changes policy c ⟨.store .evict, .ok evicted⟩ hold.slot

/-- An event of the slot was announced. -/
def Heard.TellsOf (slot : SlotId) (h : Heard) : Prop := ∃ e, h.event? = some e ∧ e.slot = slot

namespace Changes

/-- Whoever looks changes nothing. -/
theorem not_looks (change : Changes policy c h slot) : h.effect.looks = false := by
  cases change <;> rfl

/-- Whoever announces changes nothing. -/
theorem event?_eq_none (change : Changes policy c h slot) : h.event? = none := by
  cases change <;> rfl

/-- A change by a transaction is a write under the key of the slot's hold, in the first place. -/
theorem first_key {w : Watch} {writes : List Write} (change : Changes policy c h slot)
    (effect : h.effect = .store (.exec w writes)) :
    writes.head?.map Write.key = some (Key.hold slot) := by
  cases change with
  | held w' hold ttl acquires =>
    obtain ⟨-, rfl⟩ := Store.Request.exec.inj (Effect.store.inj effect)
    rfl
  | released w' stale releases =>
    obtain ⟨-, rfl⟩ := Store.Request.exec.inj (Effect.store.inj effect)
    rfl
  | booked commits => cases effect
  | expired reaps mem => cases effect

/-- A call that acquires or releases changes slots by transactions. -/
theorem commits (change : Changes policy c h slot)
    (moves : ∃ slot claimant, c.Acquires slot claimant ∨ c.Releases slot claimant) :
    h.commits = true := by
  obtain ⟨slot, claimant, moves⟩ := moves
  cases change with
  | held w hold ttl acquires => rfl
  | released w stale releases => rfl
  | booked commits => subst commits; rcases moves with h | h <;> cases h
  | expired reaps mem => subst reaps; rcases moves with h | h <;> cases h

/-- A commit changes its slot, by booking it. -/
theorem of_commit {other : SlotId} (change : Changes policy (.commit slot claimant) h other) :
    h = booking slot ∧ other = slot := by
  cases change with
  | held w hold ttl acquires => cases acquires
  | released w stale releases => cases releases
  | booked commits =>
    obtain ⟨rfl, rfl⟩ := Call.commit.inj commits
    exact ⟨rfl, rfl⟩
  | expired reaps mem => cases reaps

/-- A pass over what expired changes the slots whose holds it evicts. -/
theorem of_reap (change : Changes policy .reap h slot) :
    ∃ (evicted : List (String × String)) (hold : HoldRecord), h = ⟨.store .evict, .ok evicted⟩ ∧
      (Key.hold hold.slot, hold.encode) ∈ evicted ∧ slot = hold.slot := by
  cases change with
  | held w hold ttl acquires => cases acquires
  | released w stale releases => cases releases
  | booked commits => cases commits
  | @expired evicted hold reaps mem => exact ⟨evicted, hold, rfl, mem, rfl⟩

end Changes

/-! ## Silence about a slot -/

/-- **Nothing of what was heard concerns the slot**: it is not changed, and none of its events is
announced. -/
def Silent (policy : Policy) (c : Call) (slot : SlotId) (t : List Heard) : Prop :=
  ∀ h ∈ t, ¬ Changes policy c h slot ∧ ¬ h.TellsOf slot

/-- Silence, by the changes and the events. -/
theorem Silent.of (unchanged : ∀ h ∈ t, ¬ Changes policy c h slot)
    (untold : ∀ e ∈ events t, e.slot ≠ slot) : Silent policy c slot t := by
  intro h mem
  refine ⟨unchanged h mem, ?_⟩
  rintro ⟨e, announced, isSlot⟩
  exact untold e (List.mem_filterMap.2 ⟨h, mem, announced⟩) isSlot

/-- Where nothing was heard, nothing concerns the slot. -/
theorem silent_nil : Silent policy c slot [] := List.forall_mem_nil _

/-- Two silent parts. -/
theorem Silent.append (first : Silent policy c slot t) (second : Silent policy c slot u) :
    Silent policy c slot (t ++ u) := List.forall_mem_append.2 ⟨first, second⟩

/-- Whoever looks is silent. -/
theorem silent_of_looks (looks : ∀ h ∈ t, h.effect.looks = true) : Silent policy c slot t := by
  refine .of (fun h mem => ?_) ?_
  · intro change
    have kind := looks h mem
    rw [change.not_looks] at kind
    cases kind
  · rw [events_eq_nil fun h mem => Effect.tries_of_looks (looks h mem)]
    simp

/-- Whoever deletes single keys outside of transactions is silent. -/
theorem silent_of_deletes (deletes : ∀ h ∈ t, ∃ key, h.effect = .store (.delete key)) :
    Silent policy c slot t := by
  rintro ⟨effect, reply⟩ mem
  obtain ⟨key, rfl⟩ := deletes _ mem
  refine ⟨?_, ?_⟩
  · intro change
    cases change
  · rintro ⟨e, eq, -⟩
    cases eq

/-- What is announced changes no slot. -/
theorem not_changes_announce : ¬ Changes policy c ⟨.announce e, ()⟩ slot := by
  intro change
  cases change.event?_eq_none

/-- An announcement tells of the slot of its event. -/
theorem tellsOf_announce : Heard.TellsOf slot ⟨.announce e, ()⟩ ↔ e.slot = slot := by
  constructor
  · rintro ⟨e', same, isSlot⟩
    obtain rfl : e = e' := Option.some.inj same
    exact isSlot
  · exact fun isSlot => ⟨e, rfl, isSlot⟩

/-! ## The three ways -/

/-- **How a call can have to do with a slot**: it has nothing to do with it; or it changed the slot
once, and after that announced one event of it; or it changed the slot and was kept from announcing it.
-/
inductive Reporting (policy : Policy) (c : Call) (slot : SlotId) (thwarted : Prop) :
    List Heard → Prop where
  | silent {t : List Heard} (silent : Silent policy c slot t) : Reporting policy c slot thwarted t
  | told {t u v : List Heard} {h : Heard} {e : RoomEvent} (before : Silent policy c slot t)
    (change : Changes policy c h slot) (isSlot : e.slot = slot) (between : Silent policy c slot u)
    (after : Silent policy c slot v) :
    Reporting policy c slot thwarted (t ++ h :: (u ++ ⟨.announce e, ()⟩ :: v))
  | untold {t u : List Heard} {h : Heard} (before : Silent policy c slot t)
    (change : Changes policy c h slot) (after : Silent policy c slot u) (reason : thwarted) :
    Reporting policy c slot thwarted (t ++ h :: u)

namespace Reporting

variable {thwarted : Prop}

/-- Something silent comes first. -/
theorem after_silent (first : Silent policy c slot t) (rest : Reporting policy c slot thwarted u) :
    Reporting policy c slot thwarted (t ++ u) := by
  cases rest with
  | silent silent => exact .silent (first.append silent)
  | told before change isSlot between after =>
    rw [← List.append_assoc]
    exact .told (first.append before) change isSlot between after
  | untold before change after reason =>
    rw [← List.append_assoc]
    exact .untold (first.append before) change after reason

/-- Something silent comes last. -/
theorem before_silent (first : Reporting policy c slot thwarted t) (rest : Silent policy c slot u) :
    Reporting policy c slot thwarted (t ++ u) := by
  cases first with
  | silent silent => exact .silent (silent.append rest)
  | told before change isSlot between after =>
    rw [List.append_assoc, List.cons_append, List.append_assoc, List.cons_append]
    exact .told before change isSlot between (after.append rest)
  | untold before change after reason =>
    rw [List.append_assoc, List.cons_append]
    exact .untold before change (after.append rest) reason

end Reporting

/-! ## Any two things that a call hears -/

/-- **One thing may be heard after another**: no change follows a change or an announcement of the
slot, and no announcement of the slot follows another one. -/
def MayFollow (policy : Policy) (c : Call) (slot : SlotId) (h h' : Heard) : Prop :=
  ¬ (Changes policy c h' slot ∧ (Changes policy c h slot ∨ h.TellsOf slot)) ∧
    ¬ (h.TellsOf slot ∧ h'.TellsOf slot)

/-- Anything may be heard after what is silent. -/
theorem Silent.before_any {h' : Heard} (silent : Silent policy c slot t) (mem : h ∈ t) :
    MayFollow policy c slot h h' := by
  obtain ⟨unchanged, untold⟩ := silent h mem
  refine ⟨?_, fun ⟨told, _⟩ => untold told⟩
  rintro ⟨-, change | told⟩
  · exact unchanged change
  · exact untold told

/-- What is silent may be heard after anything. -/
theorem Silent.mayFollow {h' : Heard} (silent : Silent policy c slot t) (mem : h ∈ t) :
    MayFollow policy c slot h' h := by
  obtain ⟨unchanged, untold⟩ := silent h mem
  exact ⟨fun ⟨change, _⟩ => unchanged change, fun ⟨_, told⟩ => untold told⟩

/-- What is silent may be heard in any order. -/
theorem Silent.pairwise (silent : Silent policy c slot t) : t.Pairwise (MayFollow policy c slot) := by
  induction t with
  | nil => exact .nil
  | cons h t ih =>
    exact List.pairwise_cons.2 ⟨fun _ _ => silent.before_any List.mem_cons_self,
      ih fun h mem => silent h (List.mem_cons_of_mem _ mem)⟩

namespace Reporting

variable {thwarted : Prop}

/-- **A call changes a slot once at most, and announces one event of it at most, after that.** -/
theorem pairwise (h : Reporting policy c slot thwarted t) : t.Pairwise (MayFollow policy c slot) := by
  cases h with
  | silent silent => exact silent.pairwise
  | @told t u v h e before change isSlot between after =>
    have tells : MayFollow policy c slot h ⟨.announce e, ()⟩ := by
      refine ⟨fun ⟨change, _⟩ => not_changes_announce change, ?_⟩
      rintro ⟨⟨e', told, -⟩, -⟩
      cases change.event?_eq_none.symm.trans told
    refine List.pairwise_append.2 ⟨before.pairwise, List.pairwise_cons.2 ⟨?_, ?_⟩,
      fun _ mem _ _ => before.before_any mem⟩
    · refine List.forall_mem_append.2 ⟨fun _ mem => between.mayFollow mem, ?_⟩
      exact List.forall_mem_cons.2 ⟨tells, fun _ mem => after.mayFollow mem⟩
    · exact List.pairwise_append.2 ⟨between.pairwise,
        List.pairwise_cons.2 ⟨fun _ mem => after.mayFollow mem, after.pairwise⟩,
        fun _ mem _ _ => between.before_any mem⟩
  | untold before change after reason =>
    exact List.pairwise_append.2 ⟨before.pairwise,
      List.pairwise_cons.2 ⟨fun _ mem => after.mayFollow mem, after.pairwise⟩,
      fun _ mem _ _ => before.before_any mem⟩

/-- **What a call changed it announces**, unless it was kept from it. -/
theorem reported (report : Reporting policy c slot thwarted t) (mem : h ∈ t)
    (change : Changes policy c h slot) : thwarted ∨ ∃ a ∈ t, a.TellsOf slot := by
  cases report with
  | silent silent => exact absurd change (silent h mem).1
  | told before change isSlot between after =>
    exact .inr ⟨⟨.announce _, ()⟩, by simp, tellsOf_announce.2 isSlot⟩
  | untold before change after reason => exact .inl reason

end Reporting

end Holdfast.Reservation
