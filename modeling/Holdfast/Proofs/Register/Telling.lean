import Holdfast.Proofs.Conduct.Reporting
import Holdfast.Proofs.Conduct.Telling
import Holdfast.Proofs.Register.Answers

/-!
# What calls announce in a world that mirrors a register

An acquire, a release and a commit announce what their outcome says (`tells_acquireFor`,
`tells_release`, `tells_commit`). A pass announces the holds that ran out (`mem_expiries_iff`), in the
order of their keys (`sorted_expiries`).
-/

namespace Holdfast.Reservation

/-! ## What is told by an outcome -/

/-- What an acquire announces. -/
def AcquireOutcome.told (slot : SlotId) (day : Day) : AcquireOutcome → List RoomEvent
  | acquired _ ttl _ => [.held slot day (secondsUp ttl)]
  | conflict _ => []

/-- What a release announces. -/
def ReleaseOutcome.told (slot : SlotId) : ReleaseOutcome → List RoomEvent
  | released day => [.released slot day]
  | noHold => []
  | notOwner => []

/-- What a commit announces. -/
def CommitOutcome.told (slot : SlotId) : CommitOutcome → List RoomEvent
  | committed day => [.booked slot day]
  | noHold => []
  | notOwner => []

section outcomes

variable {policy : Policy} {slot : SlotId} {claimant : Claimant} {t : List Heard}

/-- What a release has announced goes by its outcome. -/
theorem Releasing.events_eq {o : ReleaseOutcome} (h : Releasing slot claimant t (.ok o)) :
    events t = o.told slot := by
  cases h with
  | kept silent kept =>
    cases o with
    | released day => exact (kept _ rfl).elim
    | noHold => exact silent
    | notOwner => exact silent
  | released w stale before silent owned =>
    rw [events_append, silent]
    rfl

/-- What a commit has announced goes by its outcome. -/
theorem Course.events_eq {r : Except Failure CommitOutcome} (h : Course policy slot t r) :
    events t = r.toOption.elim [] (·.told slot) := by
  cases h with
  | unbooked unbooked silent failed =>
    rw [silent]
    cases r with
    | error e => rfl
    | ok o =>
      cases o with
      | committed day => exact absurd rfl (failed day)
      | noHold => rfl
      | notOwner => rfl
  | stuck before after silent silent' thwarted =>
    rw [events_append, silent]
    exact silent'
  | told before after silent announced reached agreed =>
    rw [events_append, silent]
    exact announced

end outcomes

/-! ## What is told by a register -/

namespace World

open Program

variable {w : World}

/-- Of what it evicts, a pass announces the holds. -/
theorem tells_reap (w : World) :
    w.tells reap = (w.store.evict w.clock).1.filterMap expiry? := by
  let evicted : World := { w with store := (w.store.evict w.clock).2 }
  have first : w.run ((Program.perform (.store .evict)).bind (orFail StoreError.unavailable)) =
      (.ok (w.store.evict w.clock).1, evicted) := rfl
  obtain ⟨t, ends, told⟩ := ends_tells (announceExpired 0 (w.store.evict w.clock).1) evicted
  rw [events_announceExpired ends] at told
  unfold reap
  rw [tells_seq first, told]
  rcases counted : evicted.run (announceExpired 0 (w.store.evict w.clock).1) with ⟨r, w''⟩
  cases r with
  | error e => rw [tells_seq_error counted]; rfl
  | ok reaped => rw [tells_seq counted]; exact List.append_nil _

namespace Mirrors

variable {policy : Policy} {calendar : Calendar} {m : Register} {slot : SlotId}
  (mirrors : w.Mirrors policy calendar m)

include mirrors

/-- An acquire of a slot that can be held announces its outcome. -/
theorem tells_acquireFor (attempts : 1 ≤ policy.maxAttempts) (slot : SlotId) (claimant : Claimant)
    (ttl : Nat) :
    w.tells (acquireFor policy slot claimant ttl) =
      (m.openDay calendar slot).toOption.elim [] fun day =>
        (m.claim policy slot day claimant ttl).1.told slot day := by
  have opened := mirrors.run_openSlot slot
  have looked := tells_of_tries (looks_openSlot slot).tries w
  unfold acquireFor
  cases isOpen : m.openDay calendar slot with
  | error e =>
    rw [isOpen] at opened
    exact (tells_seq_error opened).trans looked
  | ok day =>
    have free := free_of_openDay isOpen
    rw [isOpen, free] at opened
    have tries :
        (retrying policy .acquire (tryAcquire policy ⟨slot, day, false⟩ claimant ttl)).Tries :=
      tries_tryUpTo (tries_tryAcquire policy _ claimant ttl) _
    have tried : w.run (retrying policy .acquire (tryAcquire policy ⟨slot, day, false⟩ claimant ttl)) =
        (.ok (m.claim policy slot day claimant ttl).1, _) :=
      run_retrying attempts (mirrors.run_tryAcquire free)
    rw [tells_seq opened, looked, tells_seq tried, tells_of_tries tries]
    show _ = (m.claim policy slot day claimant ttl).1.told slot day
    cases (m.claim policy slot day claimant ttl).1 <;> rfl

/-- A release announces its outcome. -/
theorem tells_release (attempts : 1 ≤ policy.maxAttempts) (slot : SlotId) (claimant : Claimant) :
    w.tells (release policy slot claimant) = (m.release slot claimant).1.told slot := by
  obtain ⟨t, ends, told⟩ := ends_tells (release policy slot claimant) w
  rw [(mirrors.follows_release attempts slot claimant).1] at ends
  rw [← told, (releasing_of_ends ends).events_eq]

/-- A commit announces its outcome. -/
theorem tells_commit (attempts : 1 ≤ policy.maxAttempts) (slot : SlotId) (claimant : Claimant) :
    w.tells (commit policy slot claimant) =
      (m.commit calendar slot claimant).1.toOption.elim [] (·.told slot) := by
  obtain ⟨t, ends, told⟩ := ends_tells (commit policy slot claimant) w
  rw [(mirrors.follows_commit attempts slot claimant).1] at ends
  rw [← told, (course_of_ends ends).events_eq]

/-- **A pass announces the holds that ran out**, and nothing else. -/
theorem mem_expiries_iff {e : RoomEvent} :
    e ∈ (w.store.evict w.clock).1.filterMap expiry? ↔
      ∃ slot h, m.holds.get? slot = some h ∧ h.isLive m.clock = false ∧
        e = .released slot h.day := by
  have ranOut : ∀ slot, (m.holds.filter fun e => !e.2.isLive m.clock).get? slot =
      (m.holds.get? slot).filter (!·.isLive m.clock) := fun slot => m.holds.get?_filter _ slot
  constructor
  · intro mem
    obtain ⟨⟨key, text⟩, reported, told⟩ := List.mem_filterMap.1 mem
    obtain ⟨isHold, hold, decoded, rfl⟩ := expiry?_eq_some_iff.1 told
    obtain ⟨⟨key', entry⟩, gone, same⟩ := List.mem_map.1 reported
    obtain ⟨rfl, rfl⟩ := Prod.mk.inj same
    have there := (SortedMap.mem_toList_iff _).1 gone
    have before := there
    rw [SortedMap.get?_filter, Option.filter_eq_some_iff] at before
    obtain ⟨hold', rfl, encoded⟩ := (mirrors.written key' entry before.1).hold_of_isHold isHold
    rw [encoded, hold'.decode?_encode] at decoded
    obtain rfl := Option.some.inj decoded
    have found := mirrors.ranOut_hold hold'.slot
    rw [there, Option.map_some, eq_comm, Option.map_eq_some_iff, ranOut] at found
    obtain ⟨h, out, content⟩ := found
    rw [Option.filter_eq_some_iff] at out
    -- The stored text is that of the hold, so they say the same day.
    have text := (Prod.mk.inj content).1
    have record : h.record hold'.slot = hold' := by
      have decoded := congrArg HoldRecord.decode? (text.trans encoded)
      rw [HoldRecord.decode?_encode, HoldRecord.decode?_encode] at decoded
      exact Option.some.inj decoded
    refine ⟨hold'.slot, h, out.1, by simpa using out.2, ?_⟩
    rw [← congrArg HoldRecord.day record]
    rfl
  · rintro ⟨slot, h, there, out, rfl⟩
    have found := mirrors.ranOut_hold slot
    rw [ranOut, there, Option.filter_some, out, if_pos (by rfl), Option.map_some,
      Option.map_eq_some_iff] at found
    obtain ⟨entry, gone, content⟩ := found
    have reported : (Key.hold slot, entry.value) ∈ (w.store.evict w.clock).1 :=
      List.mem_map.2 ⟨(Key.hold slot, entry), (SortedMap.mem_toList_iff _).2 gone, rfl⟩
    refine List.mem_filterMap.2 ⟨_, reported, expiry?_eq_some_iff.2 ⟨Key.isHold_hold slot, ?_⟩⟩
    rw [(Prod.mk.inj content).1]
    exact ⟨h.record slot, (h.record slot).decode?_encode, rfl⟩

/-- What a pass announces comes in the order of the keys of the holds. -/
theorem sorted_expiries :
    ((w.store.evict w.clock).1.filterMap expiry?).Pairwise (Key.hold ·.slot < Key.hold ·.slot) := by
  have sorted : (w.store.evict w.clock).1.Pairwise (·.1 < ·.1) :=
    List.pairwise_map.2 (w.store.entries.filter fun e => !e.2.isLive w.clock).sorted
  refine List.pairwise_filterMap.2 (sorted.imp_of_mem ?_)
  have written : ∀ {key text}, (key, text) ∈ (w.store.evict w.clock).1 → Written key text := by
    intro key text mem
    obtain ⟨⟨key, e⟩, gone, same⟩ := List.mem_map.1 mem
    obtain ⟨rfl, rfl⟩ := Prod.mk.inj same
    have there := (SortedMap.mem_toList_iff _).1 gone
    rw [SortedMap.get?_filter, Option.filter_eq_some_iff] at there
    exact mirrors.written key e there.1
  rintro ⟨key, text⟩ ⟨key', text'⟩ mem mem' lt e told e' told'
  rw [← key_of_expiry (written mem) told, ← key_of_expiry (written mem') told']
  exact lt

end Mirrors
end World
end Holdfast.Reservation
