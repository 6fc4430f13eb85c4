import Holdfast.Proofs.Conduct.Call
import Holdfast.Proofs.Conduct.Changing

/-!
# What every call reports

Whatever kind of call it is, it changes a given slot once at most; and once it did, it announces one
event of the slot and no other, except for a commit that fails after its booking
(`reporting_of_ends`). An acquire, a release and a commit have to do with one slot only (`Solely`); a
pass over what expired has to do with as many as it evicts holds of.
-/

namespace Holdfast.Reservation

open Program

variable {policy : Policy} {c : Call} {slot : SlotId} {claimant : Claimant} {t u : List Heard}
  {h : Heard} {e : RoomEvent}

/-! ## One slot only -/

/-- **What was heard has to do with one slot only.** -/
structure Solely (policy : Policy) (c : Call) (slot : SlotId) (thwarted : Prop) (t : List Heard) :
    Prop where
  reporting : Reporting policy c slot thwarted t
  others : ∀ other, other ≠ slot → Silent policy c other t

/-- What has to do with one slot only has to do with any slot in one of the three ways. -/
theorem Solely.any {thwarted : Prop} {only : SlotId} (h : Solely policy c only thwarted t) :
    Reporting policy c slot thwarted t := by
  by_cases same : slot = only
  · exact same ▸ h.reporting
  · exact .silent (h.others slot same)

/-! ## Acquires and releases -/

section moving

variable {thwarted : Prop}
  (moves : ∃ slot claimant, c.Acquires slot claimant ∨ c.Releases slot claimant)

include moves

/-- Nothing was committed, and nothing announced. -/
theorem silent_of_uncommitted (nothing : Uncommitted t) (untold : events t = []) :
    Silent policy c slot t := by
  refine .of (fun h mem => ?_) (by simp [untold])
  intro change
  have committed := change.commits moves
  rw [nothing h mem] at committed
  cases committed

/-- One transaction was committed, then something was counted, and at last an event of the slot that
was changed was announced. -/
theorem solely_moved {w : Watch} {writes : List Write} {m : Metric} {k : Nat}
    (before : Uncommitted t) (untold : events t = [])
    (change : Changes policy c (committed w writes) slot) (isSlot : e.slot = slot) :
    Solely policy c slot thwarted
      (t ++ committed w writes :: [⟨.count m k, ()⟩, ⟨.announce e, ()⟩]) where
  reporting :=
    .told (silent_of_uncommitted moves before untold) change isSlot (u := [⟨.count m k, ()⟩])
      (silent_of_looks (by simp [Effect.looks, Effect.spares])) silent_nil
  others := by
    intro other ne
    refine (silent_of_uncommitted moves before untold).append (.of ?_ ?_)
    · intro h mem change'
      have commits := change'.commits moves
      simp only [List.mem_cons, List.not_mem_nil, or_false] at mem
      rcases mem with rfl | rfl | rfl
      · have same := (change'.first_key rfl).symm.trans (change.first_key rfl)
        exact ne (Key.hold_inj (Option.some.inj same))
      · cases commits
      · cases commits
    · rintro e' mem rfl
      obtain rfl : e = e' := by simpa [events, Heard.event?, committed] using mem
      exact ne isSlot

end moving

/-- What the catalogue and the store give fits what they were asked for: the record of a slot is its
own, and what was evicted stood under different keys, where it belongs. -/
def Heard.Fits : Heard → Prop
  | ⟨.slot slot, .ok (some record)⟩ => record.id = slot
  | ⟨.store .evict, .ok evicted⟩ =>
    let entries : List (String × String) := evicted
    (entries.map Prod.fst).Nodup ∧ ∀ e ∈ entries, Written e.1 e.2
  | _ => True

/-- What is refused fits. -/
theorem fits_of_refused (refused : h.reply = refusal h.effect) : h.Fits := by
  obtain ⟨effect, reply⟩ := h
  obtain rfl : reply = refusal effect := refused
  cases effect with
  | store r => cases r <;> exact trivial
  | _ => exact trivial

/-- **An acquire has to do with its slot only.** -/
theorem solely_acquireFor {ttl : Nat} {r : Except Failure AcquireOutcome} {thwarted : Prop}
    (acquires : c.Acquires slot claimant) (ends : (acquireFor policy slot claimant ttl).Ends t r)
    (fits : ∀ h ∈ t, h.Fits) : Solely policy c slot thwarted t := by
  have moves : ∃ slot claimant, c.Acquires slot claimant ∨ c.Releases slot claimant :=
    ⟨slot, claimant, .inl acquires⟩
  cases acquiring_of_ends ends with
  | refused nothing silent refused =>
    exact ⟨.silent (silent_of_uncommitted moves nothing silent),
      fun _ _ => silent_of_uncommitted moves nothing silent⟩
  | @acquired t₀ w record hold renewed known before silent own =>
    obtain rfl : record.id = slot := fits _ (List.mem_append_left _ known)
    exact solely_moved moves before silent (.held w hold ttl acquires) rfl

/-- Whoever clears entries deletes one of them in each transaction, and else looks. -/
theorem only_clearDangling (slot : SlotId) (keys : List String) :
    (clearDangling slot keys).Only fun e =>
      e.looks = true ∨ ∃ w, ∃ key ∈ keys, e = .store (.exec w [.delete key]) := by
  induction keys with
  | nil => exact trivial
  | cons key keys ih =>
    have rest : (clearDangling slot keys).Only fun e =>
        e.looks = true ∨ ∃ w, ∃ key' ∈ key :: keys, e = .store (.exec w [.delete key']) :=
      ih.mono fun e => Or.imp_right fun ⟨w, key', mem, eq⟩ => ⟨w, key', List.mem_cons_of_mem _ mem, eq⟩
    have looks : ∀ {α : Type} {p : Program Failure α}, p.Looks → p.Only fun e =>
        e.looks = true ∨ ∃ w, ∃ key' ∈ key :: keys, e = .store (.exec w [.delete key']) :=
      fun h => Only.mono h fun _ => .inl
    refine (looks (looks_ask rfl)).bind fun w => (looks (looks_readIndex key)).bind fun named => ?_
    split
    · exact Only.bind ⟨.inr ⟨w, key, List.mem_cons_self, rfl⟩, fun reply => .orFail _ reply⟩
        fun _ => rest
    · exact rest

/-- Clearing entries changes no slot. -/
theorem silent_clearDangling {cleared : SlotId} {holder : HolderId} {session : Option SessionId}
    {r : Except Failure Unit} (ends : (clearDangling cleared (indexKeys holder session)).Ends t r) :
    Silent policy c slot t := by
  refine .of (fun h mem => ?_) ?_
  · intro change
    rcases (only_clearDangling cleared _).ends ends h mem with looks | ⟨w, key, index, effect⟩
    · rw [change.not_looks] at looks
      cases looks
    · exact hold_ne_of_index index (Option.some.inj (change.first_key effect))
  · rw [events_eq_nil ((tries_clearDangling cleared _).ends ends)]
    simp

/-- A release that took no hold away changes no slot. -/
theorem silent_of_kept {released : SlotId} {r : Except Failure ReleaseOutcome}
    (releases : c.Releases released claimant) (ends : (release policy released claimant).Ends t r)
    (kept : ∀ o, r = .ok o → o.Kept) : Silent policy c slot t := by
  have moves : ∃ slot claimant, c.Acquires slot claimant ∨ c.Releases slot claimant :=
    ⟨released, claimant, .inr releases⟩
  have tries : (retrying policy .release (tryRelease released claimant)).Tries :=
    tries_tryUpTo (tries_tryRelease released claimant) _
  rcases ends_bind.1 ends with ⟨e, failed, rfl⟩ | ⟨t₁, u, outcome, rfl, tried, rest⟩
  · rcases decided_of_ends decides_tryRelease failed with ⟨nothing, -⟩ | ⟨_, _, _, _, -, -, eq, -⟩
    · exact silent_of_uncommitted moves nothing (events_eq_nil (tries.ends failed))
    · cases eq
  · obtain ⟨⟨⟩, v, rfl, rest'⟩ := ends_ask.1 rest
    have counted : Silent policy c slot [⟨.count (.holdsReleased outcome.reason) 1, ()⟩] :=
      silent_of_looks (by simp [Effect.looks, Effect.spares])
    rcases decided_of_ends decides_tryRelease tried with
      ⟨nothing, idle⟩ | ⟨t₀, w, writes, o, rfl, -, eq, hold, stale, rfl, -, -⟩
    · have first : Silent policy c slot t₁ :=
        silent_of_uncommitted moves nothing (events_eq_nil (tries.ends tried))
      refine first.append (counted.append ?_)
      cases outcome with
      | released day => exact (idle _ rfl).elim
      | notOwner =>
        obtain ⟨rfl, -⟩ := ends_done.1 rest'
        exact silent_nil
      | noHold =>
        change (clearDangling released (indexKeys claimant.holder claimant.session) >>= fun _ =>
          (.done .noHold : Program Failure ReleaseOutcome)).Ends v r at rest'
        rcases ends_bind.1 rest' with ⟨e, failed, rfl⟩ | ⟨t₂, t₃, ⟨⟩, rfl, cleared, last⟩
        · exact silent_clearDangling failed
        · obtain ⟨rfl, -⟩ := ends_done.1 last
          rw [List.append_nil]
          exact silent_clearDangling cleared
    · obtain rfl := Except.ok.inj eq
      obtain ⟨⟨⟩, v', rfl, last⟩ := ends_ask.1 rest'
      obtain ⟨-, rfl⟩ := ends_done.1 last
      exact (kept _ rfl).elim

/-- **A release has to do with its slot only.** -/
theorem solely_release {r : Except Failure ReleaseOutcome} {thwarted : Prop}
    (releases : c.Releases slot claimant) (ends : (release policy slot claimant).Ends t r) :
    Solely policy c slot thwarted t := by
  have shape := releasing_of_ends ends
  cases shape with
  | kept silent kept =>
    exact ⟨.silent (silent_of_kept releases ends kept),
      fun _ _ => silent_of_kept releases ends kept⟩
  | @released t₀ w hold stale before silent owned =>
    exact solely_moved ⟨slot, claimant, .inr releases⟩ before silent
      (.released w stale releases) rfl

/-! ## Commits -/

section commit

variable {claimant : Claimant}

/-- A commit that has not booked its slot changes none. -/
theorem silent_of_unbooked {other : SlotId} (unbooked : ∀ h ∈ t, h.books = false)
    (untold : ∀ e ∈ events t, e.slot ≠ other) :
    Silent policy (.commit slot claimant) other t := by
  refine .of (fun h mem => ?_) untold
  intro change
  obtain ⟨rfl, -⟩ := change.of_commit
  cases unbooked _ mem

/-- Where an event was announced, something was heard before it and something after it. -/
theorem split_events {before after : List RoomEvent} (told : events t = before ++ e :: after) :
    ∃ u v, t = u ++ ⟨.announce e, ()⟩ :: v ∧ events u = before ∧ events v = after := by
  obtain ⟨u, v', rfl, first, rest⟩ := List.filterMap_eq_append_iff.1 told
  obtain ⟨w, ⟨effect, reply⟩, v, rfl, nothing, announced, last⟩ := List.filterMap_eq_cons_iff.1 rest
  cases effect with
  | announce e' =>
    obtain rfl : e' = e := Option.some.inj announced
    refine ⟨u ++ w, v, (List.append_assoc _ _ _).symm, ?_, last⟩
    rw [events_append, show events u = before from first,
      show events w = [] from List.filterMap_eq_nil_iff.2 nothing, List.append_nil]
  | _ => cases announced

/-- **A commit has to do with its slot only**, and where it does not announce what it changed, it
fails. -/
theorem solely_commit {r : Except Failure CommitOutcome} {thwarted : Prop}
    (ends : (commit policy slot claimant).Ends t r) (fails : ∀ e, r = .error e → thwarted) :
    Solely policy (.commit slot claimant) slot thwarted t := by
  have quiet : ∀ {t other}, (∀ h ∈ t, h.books = false) → events t = [] →
      Silent policy (.commit slot claimant) other t :=
    fun unbooked silent => silent_of_unbooked unbooked (by simp [silent])
  have change : Changes policy (.commit slot claimant) (booking slot) slot := .booked rfl
  have elsewhere : ∀ {t u other}, (∀ h ∈ t, h.books = false) → (∀ h ∈ u, h.books = false) →
      (∀ e ∈ events t ++ events u, e.slot ≠ other) → other ≠ slot →
      Silent policy (.commit slot claimant) other (t ++ booking slot :: u) := by
    intro t u other before after untold ne
    rw [List.forall_mem_append] at untold
    refine (silent_of_unbooked before untold.1).append
      (List.forall_mem_cons.2 ⟨⟨?_, ?_⟩, silent_of_unbooked after untold.2⟩)
    · exact fun change => ne change.of_commit.2
    · rintro ⟨e, eq, -⟩
      cases eq
  cases course_of_ends ends with
  | unbooked unbooked silent failed =>
    exact ⟨.silent (quiet unbooked silent), fun _ _ => quiet unbooked silent⟩
  | @stuck t u e before after silent silent' reason =>
    refine ⟨.untold (quiet before silent) change (quiet after silent') (fails e rfl),
      fun other ne => elsewhere before after ?_ ne⟩
    simp [silent, silent']
  | @told t u day before after silent announced reached agreed =>
    refine ⟨?_, fun other ne => elsewhere before after ?_ ne⟩
    · obtain ⟨v, v', rfl, untold, untold'⟩ :=
        split_events (show events u = [] ++ .booked slot day :: [] from announced)
      have first := (List.forall_mem_append.1 after).1
      have rest := (List.forall_mem_cons.1 (List.forall_mem_append.1 after).2).2
      exact .told (quiet before silent) change rfl (quiet first untold) (quiet rest untold')
    · simpa [silent, announced, RoomEvent.slot] using ne.symm

end commit

/-! ## Passes over what expired -/

/-- What a pass announces of an entry that it evicts. -/
def expiry? : String × String → Option RoomEvent
  | (key, text) =>
    if Key.isHold key then
      (HoldRecord.decode? text).map fun hold => .released hold.slot hold.day
    else none

/-- It announces an entry that is a hold. -/
theorem expiry?_eq_some_iff {key text : String} {e : RoomEvent} :
    expiry? (key, text) = some e ↔ Key.isHold key = true ∧
      ∃ hold, HoldRecord.decode? text = some hold ∧ e = .released hold.slot hold.day := by
  cases isHold : Key.isHold key with
  | false => simp [expiry?, isHold]
  | true =>
    simp only [expiry?, isHold, if_true, Option.map_eq_some_iff, true_and]
    exact exists_congr fun hold => and_congr_right fun _ => eq_comm

/-- Of what it was given, a pass announces the holds. -/
theorem events_announceExpired {evicted : List (String × String)} {before : Nat}
    {r : Except StoreError Nat} (ends : (announceExpired before evicted).Ends t r) :
    events t = evicted.filterMap expiry? := by
  induction evicted generalizing before t with
  | nil =>
    obtain ⟨rfl, -⟩ := ends_done.1 ends
    rfl
  | cons entry rest ih =>
    obtain ⟨key, text⟩ := entry
    unfold announceExpired HoldRecord.stored at ends
    cases isHold : Key.isHold key with
    | false =>
      rw [List.filterMap_cons_none (by simp [expiry?, isHold])]
      simp only [isHold, Bool.false_eq_true, if_false] at ends
      exact ih ends
    | true =>
      simp only [isHold, if_true] at ends
      cases decoded : HoldRecord.decode? text with
      | none =>
        rw [List.filterMap_cons_none (by simp [expiry?, isHold, decoded])]
        simp only [decoded] at ends
        obtain ⟨reply, u, rfl, last⟩ := ends_ask.1 ends
        have later := ih last
        exact later
      | some hold =>
        rw [List.filterMap_cons_some (b := .released hold.slot hold.day)
          (by simp [expiry?, isHold, decoded])]
        simp only [decoded] at ends
        obtain ⟨reply, u, rfl, last⟩ := ends_ask.1 ends
        exact congrArg (RoomEvent.released hold.slot hold.day :: ·) (ih last)

/-- The hold that is announced stood under its slot's key. -/
theorem key_of_expiry {key text : String} (written : Written key text)
    (told : expiry? (key, text) = some e) : key = Key.hold e.slot := by
  obtain ⟨isHold, hold, decoded, rfl⟩ := expiry?_eq_some_iff.1 told
  obtain ⟨hold', rfl, rfl⟩ := written.hold_of_isHold isHold
  rw [hold'.decode?_encode] at decoded
  obtain rfl := Option.some.inj decoded
  rfl

/-- Entries under other keys are not announced as the slot's hold. -/
theorem expiries_ne {evicted : List (String × String)} (written : ∀ e ∈ evicted, Written e.1 e.2)
    (other : Key.hold slot ∉ evicted.map Prod.fst) : ∀ e ∈ evicted.filterMap expiry?, e.slot ≠ slot := by
  rintro e mem rfl
  obtain ⟨⟨key, text⟩, there, told⟩ := List.mem_filterMap.1 mem
  have key_eq : key = Key.hold e.slot := key_of_expiry (written _ there) told
  exact other (List.mem_map.2 ⟨_, there, key_eq⟩)

/-- Among what is announced of entries under different keys, the hold of a slot is announced once. -/
theorem split_expiries {evicted : List (String × String)} {hold : HoldRecord}
    (distinct : (evicted.map Prod.fst).Nodup) (written : ∀ e ∈ evicted, Written e.1 e.2)
    (mem : (Key.hold hold.slot, hold.encode) ∈ evicted) :
    ∃ before after, evicted.filterMap expiry? =
        before ++ .released hold.slot hold.day :: after ∧
      (∀ e ∈ before, e.slot ≠ hold.slot) ∧ ∀ e ∈ after, e.slot ≠ hold.slot := by
  have own : expiry? (Key.hold hold.slot, hold.encode) = some (.released hold.slot hold.day) :=
    expiry?_eq_some_iff.2 ⟨Key.isHold_hold _, hold, hold.decode?_encode, rfl⟩
  obtain ⟨x, y, rfl⟩ := List.append_of_mem mem
  rw [List.map_append, List.map_cons, List.nodup_append, List.nodup_cons] at distinct
  obtain ⟨-, ⟨later, -⟩, earlier⟩ := distinct
  obtain ⟨first, second⟩ := List.forall_mem_append.1 written
  refine ⟨x.filterMap expiry?, y.filterMap expiry?, ?_, ?_, ?_⟩
  · rw [List.filterMap_append, List.filterMap_cons_some own]
  · exact expiries_ne first fun mem => earlier _ mem _ List.mem_cons_self rfl
  · exact expiries_ne (List.forall_mem_cons.1 second).2 later

/-- A pass evicts once, and then it announces the holds that it was given and changes nothing. -/
theorem ends_reap {r : Except StoreError Nat} (ends : reap.Ends t r) :
    (∃ reason, t = [⟨.store .evict, .error reason⟩]) ∨
      ∃ (evicted : List (String × String)) (u : List Heard),
        t = ⟨.store .evict, .ok evicted⟩ :: u ∧ events u = evicted.filterMap expiry? ∧
          ∀ h ∈ u, h.effect.spares = true := by
  obtain ⟨reply, u, rfl, rest⟩ := ends_ask.1 ends
  cases reply with
  | error reason =>
    obtain ⟨rfl, -⟩ := ends_fail.1 rest
    exact .inl ⟨reason, rfl⟩
  | ok evicted =>
    have rest' : (announceExpired 0 evicted >>= fun reaped =>
        perform (.count .holdsReaped reaped) >>= fun _ =>
          (.done reaped : Program StoreError Nat)).Ends u r := rest
    have spares := (Run.spares_announceExpired 0 evicted).bind fun reaped =>
      Only.bind (p := perform (.count .holdsReaped reaped))
        (f := fun _ => (.done reaped : Program StoreError Nat)) ⟨rfl, fun _ => trivial⟩
        fun _ => trivial
    refine .inr ⟨evicted, u, rfl, ?_, spares.ends rest'⟩
    rcases ends_bind.1 rest' with ⟨e, failed, -⟩ | ⟨u₁, u₂, reaped, rfl, announced, last⟩
    · exact events_announceExpired failed
    · obtain ⟨reply, v, rfl, last'⟩ := ends_ask.1 last
      obtain ⟨rfl, -⟩ := ends_done.1 last'
      rw [events_append, events_announceExpired announced]
      exact List.append_nil _

/-- **A pass reports every hold that it evicts.** -/
theorem reporting_reap {thwarted : Prop} {r : Except StoreError Nat} (ends : reap.Ends t r)
    (fits : ∀ h ∈ t, h.Fits) : Reporting policy .reap slot thwarted t := by
  rcases ends_reap ends with ⟨reason, rfl⟩ | ⟨evicted, u, rfl, told, spares⟩
  · refine .silent (.of ?_ (List.forall_mem_nil _))
    rw [List.forall_mem_singleton]
    intro change
    obtain ⟨evicted, hold, eq, -⟩ := change.of_reap
    cases eq
  · obtain ⟨distinct, written⟩ :
        (evicted.map Prod.fst).Nodup ∧ ∀ e ∈ evicted, Written e.1 e.2 := fits _ List.mem_cons_self
    have unchanged : ∀ h ∈ u, ¬ Changes policy .reap h slot := by
      intro h mem change
      obtain ⟨evicted, hold, rfl, -⟩ := change.of_reap
      cases spares _ mem
    by_cases there : Key.hold slot ∈ evicted.map Prod.fst
    · obtain ⟨⟨key, text⟩, mem, key_eq⟩ := List.mem_map.1 there
      obtain rfl : key = Key.hold slot := key_eq
      obtain ⟨hold, rfl, rfl⟩ := (written _ mem).hold_of_key rfl
      obtain ⟨before, after, split, others, others'⟩ := split_expiries distinct written mem
      obtain ⟨v, v', rfl, first, second⟩ := split_events (told.trans split)
      rw [List.forall_mem_append, List.forall_mem_cons] at unchanged
      exact .told (t := []) silent_nil (.expired rfl mem) rfl (.of unchanged.1 (first ▸ others))
        (.of unchanged.2.2 (second ▸ others'))
    · refine .silent (.of (List.forall_mem_cons.2 ⟨?_, unchanged⟩) (told ▸ expiries_ne written there))
      intro change
      obtain ⟨evicted', hold, eq, mem, rfl⟩ := change.of_reap
      cases eq
      exact there (List.mem_map.2 ⟨_, mem, rfl⟩)

/-! ## Every call -/

/-- What keeps a call from announcing what it changed: it is a commit, and it fails. -/
def Call.BreaksOff (c : Call) (r : Except Failure Answer) : Prop :=
  (∃ slot claimant, c = .commit slot claimant) ∧ ∃ e, r = .error e

/-- A call that looks up a slot first has to do with what it does after that. -/
theorem reporting_of_indexed {α : Type} {key : String} {f : Option SlotId → Program Failure α}
    {r : Except Failure α} {thwarted : Prop} (ends : (readIndex key >>= f).Ends t r)
    (rest : ∀ t₀ u named, t = t₀ ++ u → (f named).Ends u r → Reporting policy c slot thwarted u) :
    Reporting policy c slot thwarted t := by
  rcases ends_bind.1 ends with ⟨e, failed, -⟩ | ⟨t₀, u, named, rfl, looked, last⟩
  · exact .silent (silent_of_looks ((looks_readIndex key).ends failed))
  · exact (rest t₀ u named rfl last).after_silent
      (silent_of_looks ((looks_readIndex key).ends looked))

/-- An acquire through a connection reports what it does to the slot that it releases, and what it
does to the slot that it acquires. -/
theorem reporting_acquireForSession {acquired : SlotId} {holder : HolderId} {session : SessionId}
    {r : Except Failure AcquireOutcome} {thwarted : Prop}
    (ends : (acquireForSession policy acquired holder session).Ends t r)
    (fits : ∀ h ∈ t, h.Fits) :
    Reporting policy (.acquireForSession acquired holder session) slot thwarted t := by
  have acquires := Call.Acquires.connected acquired holder session
  refine reporting_of_indexed ends ?_
  rintro t₀ u named rfl rest
  have fits' := (List.forall_mem_append.1 fits).2
  cases named with
  | none => exact (solely_acquireFor acquires rest fits').any
  | some previous =>
    by_cases same : previous = acquired
    · simp only [ne_eq, same, not_true, if_false] at rest
      exact (solely_acquireFor acquires rest fits').any
    · simp only [ne_eq, same, not_false_eq_true, if_true] at rest
      have releases := Call.Releases.previous holder session same
      rcases ends_bind.1 rest with ⟨e, failed, -⟩ | ⟨u₁, u₂, r', rfl, released, last⟩
      · exact absurd failed not_ends_attempt
      · have first : Solely policy _ previous thwarted u₁ :=
          solely_release releases (ends_attempt.1 released)
        have second : Solely policy _ acquired thwarted u₂ :=
          solely_acquireFor acquires last (List.forall_mem_append.1 fits').2
        by_cases isSlot : slot = acquired
        · exact second.any.after_silent (first.others slot (isSlot ▸ Ne.symm same))
        · exact first.any.before_silent (second.others slot isSlot)

/-- The end of a connection reports what it does to the slot that it releases. -/
theorem reporting_endSession {holder : HolderId} {session : SessionId}
    {r : Except Failure (Option ReleaseOutcome)} {thwarted : Prop}
    (ends : (endSession policy holder session).Ends t r) :
    Reporting policy (.endSession holder session) slot thwarted t := by
  refine reporting_of_indexed ends ?_
  rintro t₀ u named rfl rest
  cases named with
  | none =>
    obtain ⟨rfl, -⟩ := ends_done.1 rest
    exact .silent silent_nil
  | some released =>
    have releases := Call.Releases.ended released holder session
    rcases ends_bind.1 rest with ⟨e, failed, -⟩ | ⟨u₁, u₂, outcome, rfl, ended, last⟩
    · exact (solely_release releases failed).any
    · refine (solely_release releases ended).any.before_silent ?_
      have forgets : (ask (.delete (Key.session session)) >>= fun _ =>
          (.done (some outcome) : Program Failure (Option ReleaseOutcome))).Only
            fun x => ∃ key, x = .store (.delete key) :=
        Only.bind ⟨⟨_, rfl⟩, fun reply => .orFail _ reply⟩ fun _ => trivial
      exact silent_of_deletes (forgets.ends last)

/-- **Every call has to do with a slot in one of the three ways.** -/
theorem reporting_of_ends {r : Except Failure Answer} (ends : (c.program policy).Ends t r)
    (fits : ∀ h ∈ t, h.Fits) : Reporting policy c slot (c.BreaksOff r) t := by
  have looking : ∀ {α : Type} {p : Program Failure α} {r' : Except Failure α}, p.Looks →
      p.Ends t r' → Reporting policy c slot (c.BreaksOff r) t :=
    fun looks ends => .silent (silent_of_looks (Only.ends looks ends))
  cases c with
  | acquire acquired claimant ttl =>
    obtain ⟨r', ends', rfl⟩ := ends_map ends
    exact (solely_acquireFor (.alone acquired claimant ttl) ends' fits).any
  | release released claimant =>
    obtain ⟨r', ends', rfl⟩ := ends_map ends
    exact (solely_release (.alone released claimant) ends').any
  | commit booked claimant =>
    obtain ⟨r', ends', rfl⟩ := ends_map ends
    refine (solely_commit ends' ?_).any
    rintro e rfl
    exact ⟨⟨booked, claimant, rfl⟩, e, rfl⟩
  | acquireForSession acquired holder session =>
    obtain ⟨r', ends', rfl⟩ := ends_map ends
    exact reporting_acquireForSession ends' fits
  | endSession holder session =>
    obtain ⟨r', ends', rfl⟩ := ends_map ends
    exact reporting_endSession ends'
  | sessionSlot session =>
    obtain ⟨r', ends', -⟩ := ends_map ends
    exact looking (looks_readIndex _) ends'
  | status slot =>
    obtain ⟨r', ends', -⟩ := ends_map ends
    exact looking (looks_status slot) ends'
  | listHolds =>
    obtain ⟨r', ends', -⟩ := ends_map ends
    exact looking looks_listHolds ends'
  | snapshot day =>
    obtain ⟨r', ends', -⟩ := ends_map ends
    exact looking (looks_snapshot day) ends'
  | reap =>
    obtain ⟨r', ends', -⟩ := ends_map ends
    cases r' with
    | error e => exact absurd ends' not_ends_attempt
    | ok r' => exact reporting_reap (ends_attempt.1 ends') fits

end Holdfast.Reservation
