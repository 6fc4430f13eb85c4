import Holdfast.Proofs.Register.Alone

/-!
# Releasing and committing follow the register

A release and a commit that run alone come to what the register's do (`follows_release`,
`follows_commit`), and their outcomes tell what they wrote (`run_release`, `run_commit`). Besides the
hold they take away entries that name its slot. No live hold depends on these: the entry of a holder
with a live hold names the slot of that.

While a commit runs nothing else does, so the slot that it marks is not booked when it comes to book
it, and the hold that it takes away is the one that it found.
-/

namespace Holdfast.Reservation

/-- What a release writes that comes to the outcome and finds some entries that name the slot. -/
def ReleaseOutcome.writes (slot : SlotId) (stale : List String) : ReleaseOutcome → List Write
  | released _ => .delete (Key.hold slot) :: stale.map .delete
  | noHold => stale.map .delete
  | notOwner => []

/-- Whose entries go with a release: those of the hold's owner and connection, and where there is no
hold those of the claimant. -/
def Register.leaver (m : Register) (slot : SlotId) (claimant : Claimant) : Claimant :=
  match m.live? slot with
  | some h => { holder := h.owner, session := h.session }
  | none => claimant

/-- Without a hold, the claimant's. -/
theorem Register.leaver_of_unheld {m : Register} {slot : SlotId} {claimant : Claimant}
    (unheld : m.live? slot = none) : m.leaver slot claimant = claimant := by
  rw [leaver, unheld]

/-- Of the entries of a holder and of a connection, those that name the slot. -/
def World.stale (w : World) (slot : SlotId) (c : Claimant) : List String :=
  (indexKeys c.holder c.session).filter fun key => w.names? key = some slot

/-- Such entries name the slot. -/
theorem World.mem_stale {w : World} {slot : SlotId} {c : Claimant} {key : String} :
    key ∈ w.stale slot c ↔ key ∈ indexKeys c.holder c.session ∧ w.names? key = some slot := by
  simp [stale]

/-- Nothing has to be undone if the catalogue accepts the booking. -/
theorem World.run_bookOrUndo_of_ok {w : World} {slot : SlotId}
    (accepted : (w.catalogue.book slot).1 = .ok ()) :
    w.run (bookOrUndo slot) = (.ok (), { w with catalogue := (w.catalogue.book slot).2 }) := by
  have run : w.run (Program.perform (.book slot) : Program Failure (Except CatalogueError Unit)) =
      (.ok (.ok ()), { w with catalogue := (w.catalogue.book slot).2 }) := by
    rw [← accepted]
    rfl
  exact run_seq run

namespace World.Legible

variable {w : World} (legible : w.Legible)

include legible

/-- Gathering deletes of the entries that name the slot. -/
theorem run_staleDeletes (slot : SlotId) {holder : HolderId} {session : Option SessionId}
    {keys : List String} (index : ∀ key ∈ keys, key ∈ indexKeys holder session) {watch : Watch}
    (sees : w.Sees watch) (writes : List Write) :
    ∃ watch', w.Sees watch' ∧ w.run (staleDeletes slot watch writes keys) =
      (.ok (watch', writes ++ (keys.filter fun key => w.names? key = some slot).map .delete), w) := by
  induction keys generalizing watch writes with
  | nil => exact ⟨watch, sees, by rw [List.filter_nil, List.map_nil, List.append_nil]; rfl⟩
  | cons key keys ih =>
    have index' : ∀ key' ∈ keys, key' ∈ indexKeys holder session :=
      fun key' mem => index key' (List.mem_cons_of_mem _ mem)
    have sees' := sees.merge (w.sees_watch [key])
    unfold staleDeletes
    rw [run_seq (run_watch w [key]), run_seq (legible.run_readIndex (index key List.mem_cons_self))]
    by_cases names : w.names? key = some slot
    · obtain ⟨watch', sees'', run⟩ := ih index' sees' (writes ++ [.delete key])
      refine ⟨watch', sees'', ?_⟩
      rw [if_pos names, run, List.filter_cons_of_pos (by simpa using names), List.map_cons,
        List.append_assoc, List.singleton_append]
    · obtain ⟨watch', sees'', run⟩ := ih index' sees' writes
      refine ⟨watch', sees'', ?_⟩
      rw [if_neg names, run, List.filter_cons_of_neg (by simpa using names)]

/-- Taking a hold away with the entries that name its slot. -/
theorem run_removeHold {α : Type} (slot : SlotId) (hold : HoldRecord) {watch : Watch}
    (sees : w.Sees watch) (a : α) :
    w.run (removeHold watch slot hold a) = (.ok (some a),
      w.write (.delete (Key.hold slot) ::
        (w.stale hold.slot { holder := hold.owner, session := hold.session }).map .delete)) := by
  obtain ⟨watch', sees', run⟩ :=
    legible.run_staleDeletes hold.slot (fun _ => id) sees [.delete (Key.hold slot)]
  exact (run_seq run).trans (run_transact sees' _ a)

/-- One attempt to mark a slot. -/
theorem run_tryFence_eq (slot : SlotId) (claimant : Claimant) :
    w.run (tryFence slot claimant) =
      if (w.store.read? w.clock (Key.booked slot)).isSome then (.error (.slotBooked slot), w)
      else match w.record? slot with
        | none => (.ok (some .noHold), w)
        | some hold =>
          if hold.isOwnedBy claimant then
            (.ok (some (.committed hold.day)),
              w.write [.put (Key.booked slot) hold.owner.text fenceTtl])
          else (.ok (some .notOwner), w) := by
  have marked : w.run (isFenced slot) =
      (.ok (w.store.read? w.clock (Key.booked slot)).isSome, w) := rfl
  unfold tryFence
  rw [run_seq (run_watch w _), run_seq marked]
  split
  · rfl
  rw [run_seq (legible.run_readHold slot)]
  cases w.record? slot with
  | none => rfl
  | some hold =>
    dsimp only
    split
    · exact run_transact (w.sees_watch _) _ _
    · rfl

/-- One attempt to clear a slot. -/
theorem run_tryClear_eq (slot : SlotId) :
    w.run (tryClear slot) = (.ok (some ()),
      match w.record? slot with
      | none => w
      | some hold => w.write (.delete (Key.hold slot) ::
        (w.stale hold.slot { holder := hold.owner, session := hold.session }).map .delete)) := by
  unfold tryClear
  rw [run_seq (run_watch w [Key.hold slot]), run_seq (legible.run_readHold slot)]
  cases w.record? slot with
  | none => rfl
  | some hold => exact legible.run_removeHold slot hold (w.sees_watch _) ()

end World.Legible

namespace World.Mirrors

variable {policy : Policy} {calendar : Calendar} {w : World} {m : Register} {slot : SlotId}
  {claimant : Claimant} (mirrors : w.Mirrors policy calendar m)

/-! ## Entries that go with a hold -/

/-- After an entry is taken away, another one names what it named before. -/
theorem names?_remove_ne {key key' : String} (other : key ≠ key') :
    (w.write [.delete key']).names? key = w.names? key :=
  congrArg (fun e => (Option.map _ e).bind SlotId.read?) (Store.live?_remove_ne _ _ other)

include mirrors

/-- A hold is taken away with entries that name its slot. -/
theorem remove (c : Claimant) :
    (w.write (.delete (Key.hold slot) :: (w.stale slot c).map .delete)).Mirrors policy calendar
      (m.drop slot) := by
  have index : ∀ key ∈ w.stale slot c, key ∈ indexKeys c.holder c.session :=
    fun key mem => (mem_stale.1 mem).1
  refine (mirrors.drop slot).forget index (fun key mem => ?_) Register.live?_drop_self
  rw [names?_remove_ne (hold_ne_of_index (index key mem)), (mem_stale.1 mem).2]

/-- Clearing the entries that name a slot without a hold. -/
theorem run_clearDangling {holder : HolderId} {session : Option SessionId}
    {keys : List String} (index : ∀ key ∈ keys, key ∈ indexKeys holder session)
    (distinct : keys.Nodup) (unheld : m.live? slot = none) :
    w.run (clearDangling slot keys) =
      (.ok (), w.write ((keys.filter fun key => w.names? key = some slot).map .delete)) := by
  induction keys generalizing w with
  | nil => rfl
  | cons key keys ih =>
    have isIndex := index key List.mem_cons_self
    have rest := fun key' mem => index key' (List.mem_cons_of_mem _ mem)
    obtain ⟨single, distinct'⟩ := List.nodup_cons.1 distinct
    unfold clearDangling
    rw [run_seq (run_watch w [key]), run_seq (mirrors.legible.run_readIndex isIndex)]
    by_cases names : w.names? key = some slot
    · have only : ∀ key' ∈ [key], key' ∈ indexKeys holder session :=
        fun key' mem => List.mem_singleton.1 mem ▸ isIndex
      have cleared : (w.write [.delete key]).Mirrors policy calendar m :=
        mirrors.forget only (fun key' mem => List.mem_singleton.1 mem ▸ names) unheld
      -- The keys that are still to come name what they named before.
      have others : (keys.filter fun key' => (w.write [.delete key]).names? key' = some slot) =
          keys.filter fun key' => w.names? key' = some slot :=
        List.filter_congr fun key' mem => by
          rw [names?_remove_ne fun (same : key' = key) => single (same ▸ mem)]
      rw [if_pos names, run_seq (run_exec (w.sees_watch [key]) _),
        List.filter_cons_of_pos (by simpa using names), ← others]
      exact ih cleared rest distinct'
    · rw [if_neg names, List.filter_cons_of_neg (by simpa using names)]
      exact ih mirrors rest distinct'

omit mirrors in
/-- The entries of a holder and of a connection stand under different keys. -/
theorem nodup_indexKeys (holder : HolderId) (session : Option SessionId) :
    (indexKeys holder session).Nodup := by
  cases session with
  | none => simp [indexKeys]
  | some s => simp [indexKeys, Key.holder_ne_session holder s]

/-! ## Releases -/

/-- One attempt to release a slot. -/
theorem run_tryRelease (slot : SlotId) (claimant : Claimant) :
    w.run (tryRelease slot claimant) = (.ok (some (m.release slot claimant).1),
      match (m.release slot claimant).1 with
      | .released _ =>
        w.write (.delete (Key.hold slot) :: (w.stale slot (m.leaver slot claimant)).map .delete)
      | _ => w) := by
  unfold tryRelease Register.leaver
  rw [run_seq (run_watch w [Key.hold slot]), run_seq (mirrors.run_readHold slot)]
  have released := m.released slot claimant
  generalize m.release slot claimant = done at released ⊢
  obtain ⟨o, m'⟩ := done
  cases released with
  | noHold unheld =>
    rw [unheld]
    rfl
  | notOwner h live foreign =>
    rw [live]
    simp only [Option.map_some, h.isOwnedBy_record, decide_eq_false foreign, Bool.false_eq_true,
      if_false]
    rfl
  | released h live owned =>
    rw [live]
    simp only [Option.map_some, h.isOwnedBy_record, decide_eq_true owned, if_true]
    exact mirrors.legible.run_removeHold slot (h.record slot) (w.sees_watch _)
      (ReleaseOutcome.released h.day)

/-- **A release comes to what the register's does**, and its outcome tells what it wrote. -/
theorem run_release (attempts : 1 ≤ policy.maxAttempts) (slot : SlotId) (claimant : Claimant) :
    ∃ metrics rooms, w.run (release policy slot claimant) = (.ok (m.release slot claimant).1,
      { w.write ((m.release slot claimant).1.writes slot (w.stale slot (m.leaver slot claimant)))
        with metrics, rooms }) := by
  unfold release
  rw [run_seq (run_retrying attempts (mirrors.run_tryRelease slot claimant))]
  have released := m.released slot claimant
  generalize m.release slot claimant = done at released ⊢
  obtain ⟨o, m'⟩ := done
  cases released with
  | noHold unheld =>
    let w₁ : World := { w with metrics := w.metrics.add (.holdsReleased "no_hold") 1 }
    have cleared := (mirrors.beside w₁.metrics w₁.rooms).run_clearDangling
      (fun _ => id) (nodup_indexKeys claimant.holder claimant.session) unheld
    rw [Register.leaver_of_unheld unheld]
    refine ⟨w₁.metrics, w₁.rooms, ?_⟩
    show w₁.run (clearDangling slot (indexKeys claimant.holder claimant.session) >>= fun _ =>
      (pure .noHold : Program Failure ReleaseOutcome)) = _
    exact run_seq cleared
  | notOwner h live foreign => exact ⟨_, _, rfl⟩
  | released h live owned => exact ⟨_, _, rfl⟩

/-- **After a release the world mirrors what the register is then.** -/
theorem follows_release (attempts : 1 ≤ policy.maxAttempts) (slot : SlotId) (claimant : Claimant) :
    Follows policy calendar w (release policy slot claimant) (.ok (m.release slot claimant).1)
      (m.release slot claimant).2 := by
  obtain ⟨metrics, rooms, run⟩ := mirrors.run_release attempts slot claimant
  refine .of_run run (Mirrors.beside ?_ metrics rooms)
  have released := m.released slot claimant
  generalize m.release slot claimant = done at released ⊢
  obtain ⟨o, m'⟩ := done
  cases released with
  | noHold unheld =>
    exact mirrors.forget (fun key mem => (mem_stale.1 mem).1) (fun key mem => (mem_stale.1 mem).2)
      unheld
  | notOwner h live foreign => exact mirrors
  | released h live owned => exact mirrors.remove _

/-! ## Commits -/

/-- One attempt to mark a slot, which is marked if the claimant holds it. -/
theorem run_tryFence (free : m.booked slot = false) (claimant : Claimant) :
    w.run (tryFence slot claimant) =
      match m.live? slot with
      | none => (.ok (some .noHold), w)
      | some h =>
        if h.OwnedBy claimant then
          (.ok (some (.committed h.day)), w.write [.put (Key.booked slot) h.owner.text fenceTtl])
        else (.ok (some .notOwner), w) := by
  rw [mirrors.legible.run_tryFence_eq, mirrors.read?_booked free, mirrors.record?_eq]
  cases m.live? slot with
  | none => rfl
  | some h =>
    simp only [Option.map_some, h.isOwnedBy_record, decide_eq_true_iff]
    rfl

/-- Booking a slot that was just marked. It is not booked yet, so nothing has to be undone. -/
theorem run_bookOrUndo {day : Day} (known : calendar slot = some day) (free : m.booked slot = false)
    (text : String) (ttl : Nat) :
    (w.write [.put (Key.booked slot) text ttl]).run (bookOrUndo slot) =
      (.ok (), { w.write [.put (Key.booked slot) text ttl] with
        catalogue := (w.catalogue.book slot).2 }) :=
  run_bookOrUndo_of_ok (w := w.write _) (mirrors.mark known free).1

/-- A slot that was just marked is booked. -/
theorem book_marked {day : Day} (known : calendar slot = some day) (free : m.booked slot = false)
    (text : String) (ttl : Nat) :
    { w.write [.put (Key.booked slot) text ttl] with
      catalogue := (w.catalogue.book slot).2 }.Mirrors policy calendar (m.mark slot) := by
  obtain ⟨-, booked⟩ := mirrors.mark known free
  exact booked.put_mark (by simp [Register.mark]) text ttl

omit mirrors in
/-- The entries that go with a hold are the same when a slot was marked and booked. -/
theorem stale_marked (slot : SlotId) (c : Claimant) (text : String) (ttl : Nat)
    (catalogue : Catalogue) :
    ({ w.write [.put (Key.booked slot) text ttl] with catalogue } : World).stale slot c =
      w.stale slot c := by
  refine List.filter_congr fun key index => ?_
  have other : Key.booked slot ≠ key := by
    rcases mem_indexKeys index with rfl | ⟨s, rfl⟩
    · exact Key.booked_ne_holder slot c.holder
    · exact Key.booked_ne_session slot s
  have same : ({ w.write [.put (Key.booked slot) text ttl] with catalogue } : World).names? key =
      w.names? key :=
    congrArg (fun e => (Option.map _ e).bind SlotId.read?) (Store.live?_writes_ne (.single other))
  rw [same]

/-- Taking away the hold that was committed. -/
theorem run_tryClear {h : Held} (live : m.live? slot = some h) :
    w.run (tryClear slot) = (.ok (some ()), w.write (.delete (Key.hold slot) ::
      (w.stale slot { holder := h.owner, session := h.session }).map .delete)) := by
  rw [mirrors.legible.run_tryClear_eq, mirrors.record?_eq, live]
  rfl

/-- **A commit comes to what the register's does**, and its outcome tells what it wrote. -/
theorem run_commit (attempts : 1 ≤ policy.maxAttempts) (slot : SlotId) (claimant : Claimant) :
    ∃ metrics rooms, w.run (commit policy slot claimant) = ((m.commit calendar slot claimant).1,
      match (m.commit calendar slot claimant).1 with
      | .ok (.committed _) =>
        { w.write (.put (Key.booked slot) claimant.holder.text fenceTtl :: .delete (Key.hold slot) ::
            (w.stale slot (m.leaver slot claimant)).map .delete) with
          catalogue := (w.catalogue.book slot).2, metrics, rooms }
      | _ => w) := by
  unfold commit Register.commit Register.leaver
  cases known : calendar slot with
  | none => exact ⟨w.metrics, w.rooms, run_seq_error (mirrors.run_find_unknown known)⟩
  | some day =>
    rw [run_seq (mirrors.run_find known)]
    cases booked : m.booked slot with
    | true => exact ⟨w.metrics, w.rooms, rfl⟩
    | false =>
      have fenced := mirrors.run_tryFence booked claimant
      simp only [Bool.false_eq_true, if_false]
      cases live : m.live? slot with
      | none =>
        rw [live] at fenced
        exact ⟨w.metrics, w.rooms, run_seq (run_retrying attempts fenced)⟩
      | some h =>
        rw [live] at fenced
        by_cases owned : h.OwnedBy claimant
        · simp only [if_pos owned] at fenced ⊢
          have marked := mirrors.book_marked known booked h.owner.text fenceTtl
          have left : (m.mark slot).live? slot = some h := live
          have cleared := marked.run_tryClear left
          rw [stale_marked] at cleared
          rw [run_seq (run_retrying attempts fenced), ← owned.1]
          refine ⟨w.metrics.add .holdsCommitted 1, (w.rooms.emit (.booked slot day)).2, ?_⟩
          refine (run_seq (mirrors.run_bookOrUndo known booked _ _)).trans ?_
          exact run_seq (run_retrying attempts cleared)
        · simp only [if_neg owned] at fenced ⊢
          exact ⟨w.metrics, w.rooms, run_seq (run_retrying attempts fenced)⟩

/-- **After a commit the world mirrors what the register is then.** -/
theorem follows_commit (attempts : 1 ≤ policy.maxAttempts) (slot : SlotId) (claimant : Claimant) :
    Follows policy calendar w (commit policy slot claimant) (m.commit calendar slot claimant).1
      (m.commit calendar slot claimant).2 := by
  obtain ⟨metrics, rooms, run⟩ := mirrors.run_commit attempts slot claimant
  refine .of_run run ?_
  have committed := m.committed calendar slot claimant
  generalize m.commit calendar slot claimant = done at committed ⊢
  obtain ⟨r, m'⟩ := done
  cases committed with
  | failed e => exact mirrors
  | noHold => exact mirrors
  | notOwner => exact mirrors
  | committed known free live owned =>
    have marked := mirrors.book_marked known free claimant.holder.text fenceTtl
    have cleared : World.Mirrors policy calendar
        (World.write _ (.delete (Key.hold slot) :: (World.stale _ slot _).map .delete)) _ :=
      marked.remove (m.leaver slot claimant)
    rw [stale_marked] at cleared
    exact cleared.beside metrics rooms

end World.Mirrors
end Holdfast.Reservation
