import Holdfast.Proofs.Interleaving.Run

/-!
# What operations are made of

All operations but the listing of holds and the pass over what expired are put together from a few
single steps. A property of programs that every step has, and that programs one after the other have
if each of them has it (`Program.Composes`), is a property of every such operation
(`Composes.call`).
-/

namespace Holdfast

/-- Does the error say that a stored text cannot be decoded? -/
def StoreError.isUndecodable : StoreError → Bool
  | notAHold _ => true
  | notASlot .. => true
  | unavailable _ => false

namespace Reservation

open Program

/-- Does the failure say that a stored text cannot be decoded? -/
def Failure.isUndecodable : Failure → Bool
  | store e => e.isUndecodable
  | _ => false

/-- Does the effect look at single keys only, and count no text that cannot be decoded? -/
def Effect.isPlain : Effect → Bool
  | .store (.scan ..) => false
  | .store .evict => false
  | .count m _ => m ≠ .decodeFailures
  | _ => true

/-- **A property that programs have if their parts have it.** -/
structure Program.Composes (P : (α : Type) → Program Failure α → Prop) : Prop where
  done {α : Type} (a : α) : P α (.done a)
  fail {α : Type} {e : Failure} (h : e.isUndecodable = false) : P α (.fail e)
  bind {α β : Type} {p : Program Failure α} {f : α → Program Failure β} (first : P α p)
    (rest : ∀ a, P β (f a)) : P β (p >>= f)
  attempt {α : Type} {p : Program Failure α} (h : P α p) : P (Except Failure α) p.attempt
  perform {e : Effect} (h : e.isPlain = true) : P e.Reply (.perform e)
  readHold (slot : SlotId) : P (Option HoldRecord) (readHold slot)
  readIndex {holder : HolderId} {session : Option SessionId} {key : String}
    (index : key ∈ indexKeys holder session) : P (Option SlotId) (readIndex key)

namespace Program.Composes

variable {P : (α : Type) → Program Failure α → Prop} (composes : Composes P) (policy : Policy)
  (slot : SlotId) (claimant : Claimant)

include composes

/-! ## Single steps -/

/-- Asking the store about single keys. -/
theorem ask {r : Store.Request} (h : (Effect.store r).isPlain = true) :
    P r.Answer (Reservation.ask r) := by
  refine composes.bind (composes.perform h) ?_
  intro reply
  cases reply with
  | ok a => exact composes.done a
  | error reason => exact composes.fail rfl

/-- Counting anything but texts that cannot be decoded. -/
theorem count {m : Metric} (h : m ≠ .decodeFailures) : P Unit (Reservation.count m) :=
  composes.perform (e := .count m 1) (decide_eq_true h)

/-- Telling a room. -/
theorem announce (e : RoomEvent) : P Unit (Reservation.announce e) :=
  composes.perform (e := .announce e) rfl

/-- Failures of the catalogue are about no stored text. -/
theorem orCatalogue {α : Type} (reply : Except CatalogueError α) :
    P α (orFail Failure.ofCatalogue reply) := by
  cases reply with
  | ok a => exact composes.done a
  | error e => cases e <;> exact composes.fail rfl

/-- Finding a slot. -/
theorem find : P SlotRecord (Reservation.find slot) := by
  have lookup : P (Option SlotRecord) (Reservation.lookup slot) :=
    composes.bind (composes.perform rfl) composes.orCatalogue
  refine composes.bind lookup ?_
  intro found
  cases found with
  | none => exact composes.fail rfl
  | some r => exact composes.done r

/-- Looking for the mark of a booking. -/
theorem isFenced : P Bool (Reservation.isFenced slot) :=
  composes.bind (composes.ask rfl) fun _ => composes.done _

/-- Carrying out a transaction. -/
theorem transact {α : Type} (w : Watch) (writes : List Write) (a : α) :
    P (Option α) (Reservation.transact w writes a) := by
  refine composes.bind (composes.ask rfl) ?_
  intro outcome
  cases outcome <;> exact composes.done _

/-- Trying again. -/
theorem tryUpTo {α : Type} {limit : Nat} {op : Operation} {attempt : Program Failure (Option α)}
    (h : P (Option α) attempt) (attempts : Nat) :
    P α (Reservation.tryUpTo limit op attempt attempts) := by
  induction attempts with
  | zero => exact composes.fail rfl
  | succ attempts ih =>
    refine composes.bind h ?_
    intro outcome
    cases outcome with
    | some a => exact composes.done a
    | none => exact composes.bind (composes.count nofun) fun _ => ih

/-! ## Acquires -/

/-- Looking for a slot that can be held. -/
theorem openSlot : P SlotRecord (Reservation.openSlot slot) := by
  refine composes.bind (composes.perform (e := .admission) rfl) ?_
  intro admission
  cases admission with
  | closed => exact composes.fail rfl
  | days enabled =>
    refine composes.bind (composes.find slot) fun r => ?_
    split
    · exact composes.fail rfl
    · split
      · exact composes.done r
      · exact composes.fail rfl

/-- Reporting a conflict. -/
theorem conflictOver (key : String) (conflict : Nat → Conflict) :
    P (Option AcquireOutcome) (Reservation.conflictOver key conflict) :=
  composes.bind (composes.ask rfl) fun _ => composes.done _

/-- Looking for another slot of the holder. -/
theorem otherSlot : P (Option SlotId) (Reservation.otherSlot policy slot claimant.holder) := by
  unfold Reservation.otherSlot
  split
  · have index : Key.holder claimant.holder ∈ indexKeys claimant.holder none :=
      List.mem_append_left _ (List.mem_singleton_self _)
    exact composes.bind (composes.readIndex index) fun _ => composes.done _
  · exact composes.done _

/-- An attempt to acquire a slot that has no hold. -/
theorem placeNew (w : Watch) (record : SlotRecord) (ttl : Nat) :
    P (Option AcquireOutcome) (Reservation.placeNew policy w record claimant ttl) := by
  refine composes.bind (composes.otherSlot policy record.id claimant) ?_
  intro named
  cases named with
  | none => exact composes.transact _ _ _
  | some other =>
    refine composes.bind (composes.ask rfl) fun later =>
      composes.bind (composes.readHold other) fun found => ?_
    cases found with
    | none => exact composes.transact _ _ _
    | some hold =>
      dsimp only
      split
      · exact composes.conflictOver _ _
      · exact composes.transact _ _ _

/-- An attempt to acquire a slot. -/
theorem tryAcquire (record : SlotRecord) (ttl : Nat) :
    P (Option AcquireOutcome) (Reservation.tryAcquire policy record claimant ttl) := by
  refine composes.bind (composes.ask rfl) fun w =>
    composes.bind (composes.isFenced record.id) fun fenced => ?_
  split
  · exact composes.fail rfl
  · refine composes.bind (composes.readHold record.id) fun found => ?_
    cases found with
    | none => exact composes.placeNew _ _ _ _ _
    | some hold =>
      dsimp only
      split
      · exact composes.transact _ _ _
      · exact composes.conflictOver _ _

/-- Acquiring a slot for some time. -/
theorem acquireFor (ttl : Nat) :
    P AcquireOutcome (Reservation.acquireFor policy slot claimant ttl) := by
  refine composes.bind (composes.openSlot slot) fun record =>
    composes.bind (composes.tryUpTo (composes.tryAcquire policy claimant record ttl) _) fun o => ?_
  cases o with
  | acquired hold ttl renewed =>
    exact composes.bind (composes.count nofun) fun _ =>
      composes.bind (composes.announce _) fun _ => composes.done _
  | conflict c => exact composes.bind (composes.count nofun) fun _ => composes.done _

/-! ## Releases -/

/-- Gathering the deletes of entries. -/
theorem staleDeletes {holder : HolderId} {session : Option SessionId} {keys : List String}
    (w : Watch) (writes : List Write) (index : ∀ key ∈ keys, key ∈ indexKeys holder session) :
    P (Watch × List Write) (Reservation.staleDeletes slot w writes keys) := by
  induction keys generalizing w writes with
  | nil => exact composes.done _
  | cons key keys ih =>
    have rest : ∀ w writes, P _ (Reservation.staleDeletes slot w writes keys) :=
      fun w writes => ih w writes fun key' mem => index key' (List.mem_cons_of_mem _ mem)
    refine composes.bind (composes.ask rfl) fun later =>
      composes.bind (composes.readIndex (index key List.mem_cons_self)) fun named => ?_
    split <;> exact rest _ _

/-- Taking a hold away. -/
theorem removeHold {α : Type} (w : Watch) (hold : HoldRecord) (a : α) :
    P (Option α) (Reservation.removeHold w slot hold a) :=
  composes.bind (composes.staleDeletes _ _ _ fun _ => id) fun _ => composes.transact _ _ _

/-- An attempt to release a slot. -/
theorem tryRelease : P (Option ReleaseOutcome) (Reservation.tryRelease slot claimant) := by
  refine composes.bind (composes.ask rfl) fun w =>
    composes.bind (composes.readHold slot) fun found => ?_
  cases found with
  | none => exact composes.done _
  | some hold =>
    dsimp only
    split
    · exact composes.removeHold _ _ _ _
    · exact composes.done _

/-- Clearing entries that name a slot without a hold. -/
theorem clearDangling {holder : HolderId} {session : Option SessionId} {keys : List String}
    (index : ∀ key ∈ keys, key ∈ indexKeys holder session) :
    P Unit (Reservation.clearDangling slot keys) := by
  induction keys with
  | nil => exact composes.done _
  | cons key keys ih =>
    have rest := ih fun key' mem => index key' (List.mem_cons_of_mem _ mem)
    refine composes.bind (composes.ask rfl) fun w =>
      composes.bind (composes.readIndex (index key List.mem_cons_self)) fun named => ?_
    split
    · exact composes.bind (composes.ask rfl) fun _ => rest
    · exact rest

/-- Releasing a slot. -/
theorem release : P ReleaseOutcome (Reservation.release policy slot claimant) := by
  refine composes.bind (composes.tryUpTo (composes.tryRelease slot claimant) _) fun o =>
    composes.bind (composes.count nofun) fun _ => ?_
  cases o with
  | released day => exact composes.bind (composes.announce _) fun _ => composes.done _
  | noHold =>
    exact composes.bind (composes.clearDangling _ fun _ => id) fun _ => composes.done _
  | notOwner => exact composes.done _

/-! ## Commits -/

/-- An attempt to mark a slot. -/
theorem tryFence : P (Option CommitOutcome) (Reservation.tryFence slot claimant) := by
  refine composes.bind (composes.ask rfl) fun w =>
    composes.bind (composes.isFenced slot) fun fenced => ?_
  split
  · exact composes.fail rfl
  · refine composes.bind (composes.readHold slot) fun found => ?_
    cases found with
    | none => exact composes.done _
    | some hold =>
      dsimp only
      split
      · exact composes.transact _ _ _
      · exact composes.done _

/-- An attempt to take away the hold that is left. -/
theorem tryClear : P (Option Unit) (Reservation.tryClear slot) := by
  refine composes.bind (composes.ask rfl) fun w =>
    composes.bind (composes.readHold slot) fun found => ?_
  cases found with
  | none => exact composes.done _
  | some hold => exact composes.removeHold _ _ _ _

/-- Telling the catalogue of a booking. -/
theorem bookOrUndo : P Unit (Reservation.bookOrUndo slot) := by
  refine composes.bind (composes.perform (e := .book slot) rfl) ?_
  rintro (e | ⟨⟩)
  · cases e with
    | alreadyBooked id => exact composes.fail rfl
    | unknown id => exact composes.bind (composes.ask rfl) fun _ => composes.fail rfl
    | unavailable reason => exact composes.bind (composes.ask rfl) fun _ => composes.fail rfl
  · exact composes.done _

/-- Committing a hold. -/
theorem commit : P CommitOutcome (Reservation.commit policy slot claimant) := by
  refine composes.bind (composes.find slot) fun r => ?_
  split
  · exact composes.fail rfl
  · refine composes.bind (composes.tryUpTo (composes.tryFence slot claimant) _) fun o => ?_
    cases o with
    | committed day =>
      exact composes.bind (composes.bookOrUndo slot) fun _ =>
        composes.bind (composes.tryUpTo (composes.tryClear slot) _) fun _ =>
        composes.bind (composes.count nofun) fun _ =>
        composes.bind (composes.announce _) fun _ => composes.done _
    | noHold => exact composes.done _
    | notOwner => exact composes.done _

/-! ## Connections -/

/-- Looking up the slot of a connection. -/
theorem sessionSlot (session : SessionId) :
    P (Option SlotId) (Reservation.sessionSlot session) := by
  have index : Key.session session ∈ indexKeys ⟨""⟩ (some session) :=
    List.mem_append_right _ (List.mem_singleton_self _)
  exact composes.readIndex index

/-- Acquiring a slot through a connection. -/
theorem acquireForSession (holder : HolderId) (session : SessionId) :
    P AcquireOutcome (Reservation.acquireForSession policy slot holder session) := by
  refine composes.bind (composes.sessionSlot session) fun previous => ?_
  cases previous with
  | none => exact composes.acquireFor _ _ _ _
  | some previous =>
    dsimp only
    split
    · exact composes.bind (composes.attempt (composes.release _ _ _)) fun _ =>
        composes.acquireFor _ _ _ _
    · exact composes.acquireFor _ _ _ _

/-- Ending a connection. -/
theorem endSession (holder : HolderId) (session : SessionId) :
    P (Option ReleaseOutcome) (Reservation.endSession policy holder session) := by
  refine composes.bind (composes.sessionSlot session) fun named => ?_
  cases named with
  | none => exact composes.done _
  | some slot =>
    exact composes.bind (composes.release _ _ _) fun _ =>
      composes.bind (composes.ask rfl) fun _ => composes.done _

/-! ## What can be had -/

/-- The status of a slot with a record. -/
theorem statusOf (r : SlotRecord) : P SlotStatus (Reservation.statusOf r) := by
  unfold Reservation.statusOf
  split
  · exact composes.done _
  · refine composes.bind (composes.readHold r.id) fun found => ?_
    cases found with
    | none => exact composes.done _
    | some hold =>
      refine composes.bind (composes.ask rfl) fun left => ?_
      cases left <;> exact composes.done _

/-- The statuses of some slots. -/
theorem addSlots (s : DaySnapshot) (slots : List SlotRecord) :
    P DaySnapshot (Reservation.addSlots s slots) := by
  induction slots generalizing s with
  | nil => exact composes.done _
  | cons r rest ih => exact composes.bind (composes.statusOf r) fun status => ih _

/-- The snapshot of a day. -/
theorem snapshot (day : Day) : P DaySnapshot (Reservation.snapshot day) :=
  composes.bind (composes.bind (composes.perform rfl) composes.orCatalogue) fun _ =>
    composes.addSlots _ _

/-- **Every call has the property**, if the listing of holds and the pass over what expired have it.
-/
theorem call (c : Call) (listing : c = .listHolds → P (List HoldRow) listHolds)
    (pass : c = .reap → P (Except StoreError Nat) reap.attempt) : P Answer (c.program policy) := by
  have answered : ∀ {α : Type} {p : Program Failure α} (f : α → Answer), P α p →
      P Answer (p >>= fun a => .done (f a)) :=
    fun f h => composes.bind h fun a => composes.done (f a)
  cases c with
  | acquire slot claimant ttl => exact answered _ (composes.acquireFor _ _ _ _)
  | release slot claimant => exact answered _ (composes.release _ _ _)
  | commit slot claimant => exact answered _ (composes.commit _ _ _)
  | acquireForSession slot holder session => exact answered _ (composes.acquireForSession _ _ _ _)
  | endSession holder session => exact answered _ (composes.endSession _ _ _)
  | sessionSlot session => exact answered _ (composes.sessionSlot _)
  | status slot =>
    exact answered _ (composes.bind (composes.find slot) composes.statusOf)
  | listHolds => exact answered _ (listing rfl)
  | snapshot day => exact answered _ (composes.snapshot day)
  | reap => exact answered _ (pass rfl)

end Program.Composes
end Reservation
end Holdfast
