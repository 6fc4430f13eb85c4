import Holdfast.Proofs.Conduct.Course

/-!
# What a transaction decides

An acquire and a release each come down to one transaction: as long as none is committed, there is
nothing to report but a refusal or a failure, and once one is, there is nothing left but to tell.

* `Program.Decides`: a program that is over with its first transaction to be committed, and whose
  value says what was written. `decided_of_ends` carries this over to trying again.
* `Acquiring` and `Releasing`: how an acquire and a release can end, with what they have heard.
* `Program.AtMost`: a program that asks for effects of a kind so many times at most, whatever it
  hears. `atMost_acquireFor` says so of the transactions of an acquire.
-/

namespace Holdfast.Reservation

open Program

variable {policy : Policy} {slot : SlotId} {claimant : Claimant} {t : List Heard}

/-! ## Committed transactions among what was heard -/

/-- A transaction was committed. -/
def committed (w : Watch) (writes : List Write) : Heard := ⟨.store (.exec w writes), .ok .committed⟩

/-- Did the store commit a transaction? -/
def Heard.commits : Heard → Bool
  | ⟨.store (.exec ..), .ok .committed⟩ => true
  | _ => false

/-- Nothing of it was a transaction that was committed. -/
def Uncommitted (t : List Heard) : Prop := ∀ h ∈ t, h.commits = false

theorem uncommitted_nil : Uncommitted [] := fun _ mem => nomatch mem

/-- Who looks commits nothing. -/
theorem uncommitted_of_looks (looks : ∀ h ∈ t, h.effect.looks = true) : Uncommitted t := by
  rintro h mem
  have kind := looks h mem
  unfold Heard.commits
  split
  · cases kind
  · rfl

/-- Two parts without a committed transaction. -/
theorem Uncommitted.append {u : List Heard} (h : Uncommitted t) (h' : Uncommitted u) :
    Uncommitted (t ++ u) := List.forall_mem_append.2 ⟨h, h'⟩

/-! ## Programs that one transaction decides -/

/-- **One transaction decides the program.** If the store commits one, it is the last thing that the
program hears, and the value says what was written; otherwise the value is an idle one. -/
def Program.Decides {α : Type} (p : Program Failure (Option α)) (idle : α → Prop)
    (wrote : List Write → α → Prop) : Prop :=
  ∀ t r, p.Ends t r →
    (Uncommitted t ∧ ∀ a, r = .ok (some a) → idle a) ∨
      ∃ t₀ w writes a, t = t₀ ++ [committed w writes] ∧ Uncommitted t₀ ∧ r = .ok (some a) ∧
        wrote writes a

section decides

variable {α β : Type} {idle : α → Prop} {wrote : List Write → α → Prop}

/-- A program that is over with an idle value. -/
theorem decides_done {a : α} (h : idle a) :
    (done (some a) : Program Failure (Option α)).Decides idle wrote := by
  intro t r ends
  obtain ⟨rfl, rfl⟩ := ends_done.1 ends
  refine .inl ⟨uncommitted_nil, ?_⟩
  rintro a' ⟨⟩
  exact h

/-- A program that fails. -/
theorem decides_fail {e : Failure} :
    (fail e : Program Failure (Option α)).Decides idle wrote := by
  intro t r ends
  obtain ⟨rfl, rfl⟩ := ends_fail.1 ends
  exact .inl ⟨uncommitted_nil, fun a eq => nomatch eq⟩

/-- Looking comes before what is decided. -/
theorem decides_bind {p : Program Failure β} {f : β → Program Failure (Option α)} (looks : p.Looks)
    (rest : ∀ b, (f b).Decides idle wrote) : (p >>= f).Decides idle wrote := by
  intro t r ends
  rcases ends_bind.1 ends with ⟨e, failed, rfl⟩ | ⟨t₁, t₂, b, rfl, first, second⟩
  · exact .inl ⟨uncommitted_of_looks (Only.ends looks failed), fun a eq => nomatch eq⟩
  · have before := uncommitted_of_looks (Only.ends looks first)
    rcases rest b t₂ r second with ⟨behind, value⟩ | ⟨t₀, w, writes, a, rfl, behind, rfl, value⟩
    · exact .inl ⟨before.append behind, value⟩
    · exact .inr ⟨t₁ ++ t₀, w, writes, a, (List.append_assoc _ _ _).symm, before.append behind, rfl,
        value⟩

/-- Carrying out a transaction. -/
theorem decides_transact {w : Watch} {writes : List Write} {a : α} (h : wrote writes a) :
    (transact w writes a).Decides idle wrote := by
  intro t r ends
  rcases ends_bind.1 ends with ⟨e, failed, rfl⟩ | ⟨t₁, t₂, outcome, rfl, asked, last⟩
  · rcases ends_store failed with ⟨outcome, -, eq⟩ | ⟨reason, rfl, -⟩
    · cases eq
    · exact .inl ⟨by simp [Uncommitted, Heard.commits], fun a eq => nomatch eq⟩
  · rcases ends_store asked with ⟨outcome', rfl, eq⟩ | ⟨reason, -, eq⟩
    · obtain rfl := Except.ok.inj eq
      cases outcome with
      | committed =>
        obtain ⟨rfl, rfl⟩ := ends_done.1 last
        exact .inr ⟨[], w, writes, a, rfl, uncommitted_nil, rfl, h⟩
      | aborted =>
        obtain ⟨rfl, rfl⟩ := ends_done.1 last
        exact .inl ⟨by simp [Uncommitted, Heard.commits], fun a eq => nomatch eq⟩
    · cases eq

/-- **Trying again is decided by one transaction, too**: the rounds that came to nothing committed
nothing. -/
theorem decided_of_ends {limit : Nat} {op : Operation} {attempt : Program Failure (Option α)}
    {attempts : Nat} {r : Except Failure α} (decides : attempt.Decides idle wrote)
    (ends : (tryUpTo limit op attempt attempts).Ends t r) :
    (Uncommitted t ∧ ∀ a, r = .ok a → idle a) ∨
      ∃ t₀ w writes a, t = t₀ ++ [committed w writes] ∧ Uncommitted t₀ ∧ r = .ok a ∧
        wrote writes a := by
  have nothing : ∀ {k u}, Rounds op attempt k u → Uncommitted u := by
    intro k u rounds
    induction rounds with
    | nil => exact uncommitted_nil
    | again first rest ih =>
      rcases decides _ _ first with ⟨before, -⟩ | ⟨_, _, _, _, -, -, eq, -⟩
      · exact before.append (List.forall_mem_cons.2 ⟨rfl, ih⟩)
      · cases eq
  rcases rounds_of_ends ends with ⟨k, t₀, t₁, -, rfl, rounds, last⟩ | ⟨rounds, rfl⟩
  · have before := nothing rounds
    rcases decides _ _ last with ⟨behind, value⟩ | ⟨u, w, writes, a, rfl, behind, eq, value⟩
    · refine .inl ⟨before.append behind, ?_⟩
      rintro a rfl
      exact value a rfl
    · refine .inr ⟨t₀ ++ u, w, writes, a, (List.append_assoc _ _ _).symm, before.append behind, ?_,
        value⟩
      cases r with
      | error e => cases eq
      | ok a' => exact congrArg _ (Option.some.inj (Except.ok.inj eq))
  · exact .inl ⟨nothing rounds, fun a eq => nomatch eq⟩

end decides

/-! ## Acquires -/

/-- An acquire that wrote nothing has run into a conflict. -/
def AcquireOutcome.Refused : AcquireOutcome → Prop
  | .acquired .. => False
  | .conflict _ => True

/-- What an acquire writes, by its outcome: the hold of the claimant, for the time it asked for. -/
def Acquired (policy : Policy) (slot : SlotId) (claimant : Claimant) (ttl : Nat)
    (writes : List Write) (o : AcquireOutcome) : Prop :=
  ∃ hold renewed, o = .acquired hold ttl renewed ∧ hold.owner = claimant.holder ∧
    writes = placing policy hold slot claimant.holder ttl

/-- Writing a hold. -/
theorem decides_place {w : Watch} {hold : HoldRecord} {ttl : Nat} {renewed : Bool}
    (own : hold.owner = claimant.holder) :
    (place policy w slot claimant hold ttl renewed).Decides AcquireOutcome.Refused
      (Acquired policy slot claimant ttl) :=
  decides_transact ⟨hold, renewed, rfl, own, rfl⟩

/-- Reporting a conflict, or starting over. -/
theorem decides_conflictOver {key : String} {conflict : Nat → Conflict}
    {wrote : List Write → AcquireOutcome → Prop} :
    (conflictOver key conflict).Decides AcquireOutcome.Refused wrote := by
  intro t r ends
  refine .inl ⟨uncommitted_of_looks ((looks_conflictOver key conflict).ends ends), ?_⟩
  rintro a rfl
  obtain ⟨_, _, left, -, -, last⟩ := ends_bind_ok.1 ends
  obtain ⟨-, eq⟩ := ends_done.1 last
  obtain ⟨ttl, -, rfl⟩ := Option.map_eq_some_iff.1 (Except.ok.inj eq).symm
  exact trivial

/-- Acquiring a slot that has no hold. -/
theorem decides_placeNew {w : Watch} {record : SlotRecord} {ttl : Nat} :
    (placeNew policy w record claimant ttl).Decides AcquireOutcome.Refused
      (Acquired policy record.id claimant ttl) := by
  refine decides_bind (looks_otherSlot _ _ _) fun named => ?_
  cases named with
  | none => exact decides_place rfl
  | some other =>
    refine decides_bind (looks_ask rfl) fun later => decides_bind (looks_readHold other) fun found => ?_
    cases found with
    | none => exact decides_place rfl
    | some hold =>
      dsimp only
      split
      · exact decides_conflictOver
      · exact decides_place rfl

/-- **One transaction decides an attempt to acquire a slot.** -/
theorem decides_tryAcquire {record : SlotRecord} {ttl : Nat} :
    (tryAcquire policy record claimant ttl).Decides AcquireOutcome.Refused
      (Acquired policy record.id claimant ttl) := by
  refine decides_bind (looks_ask rfl) fun w => decides_bind (looks_isFenced _) fun fenced => ?_
  split
  · exact decides_fail
  · refine decides_bind (looks_readHold _) fun found => ?_
    cases found with
    | none => exact decides_placeNew
    | some hold =>
      dsimp only
      split
      · rename_i own
        exact decides_place own
      · exact decides_conflictOver

/-- **How an acquire ends**: it committed nothing and told nobody; or it wrote its hold, and then
told the room. -/
inductive Acquiring (policy : Policy) (slot : SlotId) (claimant : Claimant) (ttl : Nat) :
    List Heard → Except Failure AcquireOutcome → Prop where
  | refused {t : List Heard} {r : Except Failure AcquireOutcome} (nothing : Uncommitted t)
    (silent : events t = []) (refused : ∀ o, r = .ok o → o.Refused) :
    Acquiring policy slot claimant ttl t r
  | acquired {t₀ : List Heard} (w : Watch) {record : SlotRecord} {hold : HoldRecord}
    (renewed : Bool) (known : ⟨.slot slot, .ok (some record)⟩ ∈ t₀) (before : Uncommitted t₀)
    (silent : events t₀ = []) (own : hold.owner = claimant.holder) :
    Acquiring policy slot claimant ttl
      (t₀ ++ committed w (placing policy hold record.id claimant.holder ttl) ::
        [⟨.count (.holdsAcquired renewed) 1, ()⟩,
          ⟨.announce (.held slot record.day (secondsUp ttl)), ()⟩])
      (.ok (.acquired hold ttl renewed))

/-- Who found a slot has heard of it from the catalogue. -/
theorem ends_find {record : SlotRecord} (ends : (find slot).Ends t (.ok record)) :
    t = [⟨.slot slot, .ok (some record)⟩] := by
  obtain ⟨t₁, t₂, found, rfl, looked, last⟩ := ends_bind_ok.1 ends
  obtain ⟨reply, u, rfl, rest⟩ := ends_ask.1 looked
  cases reply with
  | error e => cases (ends_fail.1 rest).2
  | ok found' =>
    obtain ⟨rfl, eq⟩ := ends_done.1 rest
    obtain rfl := Except.ok.inj eq
    cases found with
    | none => cases (ends_fail.1 last).2
    | some record' =>
      obtain ⟨rfl, eq⟩ := ends_done.1 last
      obtain rfl := Except.ok.inj eq
      rfl

/-- A slot that can be held was heard of from the catalogue. -/
theorem ends_openSlot {record : SlotRecord} (ends : (openSlot slot).Ends t (.ok record)) :
    ⟨.slot slot, .ok (some record)⟩ ∈ t := by
  obtain ⟨t₁, t₂, admission, rfl, -, rest⟩ := ends_bind_ok.1 ends
  cases admission with
  | closed => cases (ends_fail.1 rest).2
  | days enabled =>
    obtain ⟨t₃, t₄, record', rfl, found, last⟩ := ends_bind_ok.1 rest
    have same : record' = record := by
      split at last
      · cases (ends_fail.1 last).2
      · split at last
        · exact (Except.ok.inj (ends_done.1 last).2).symm
        · cases (ends_fail.1 last).2
    subst same
    rw [ends_find found]
    simp

/-- **An acquire ends in no other way.** -/
theorem acquiring_of_ends {ttl : Nat} {r : Except Failure AcquireOutcome}
    (ends : (acquireFor policy slot claimant ttl).Ends t r) :
    Acquiring policy slot claimant ttl t r := by
  rcases ends_bind.1 ends with ⟨e, failed, rfl⟩ | ⟨t₁, u, record, rfl, opened, rest⟩
  · have looks := (looks_openSlot slot).ends failed
    exact .refused (uncommitted_of_looks looks)
      (events_eq_nil fun h mem => Effect.tries_of_looks (looks h mem)) fun o eq => nomatch eq
  · have looks := (looks_openSlot slot).ends opened
    have before := uncommitted_of_looks looks
    have silent := events_eq_nil fun h mem => Effect.tries_of_looks (looks h mem)
    have tries : (retrying policy .acquire (tryAcquire policy record claimant ttl)).Tries :=
      tries_tryUpTo (tries_tryAcquire policy record claimant ttl) _
    rcases ends_bind.1 rest with ⟨e, failed, rfl⟩ | ⟨t₂, v, outcome, rfl, tried, rest'⟩
    · rcases decided_of_ends decides_tryAcquire failed with ⟨nothing, -⟩ | ⟨_, _, _, _, -, -, eq, -⟩
      · refine .refused (before.append nothing) ?_ fun o eq => nomatch eq
        rw [events_append, silent, events_eq_nil (tries.ends failed), List.append_nil]
      · cases eq
    · have still := events_eq_nil (tries.ends tried)
      rcases decided_of_ends decides_tryAcquire tried with
        ⟨nothing, refused⟩ | ⟨t₃, w, writes, o, rfl, nothing, eq, hold, renewed, rfl, own, rfl⟩
      · cases outcome with
        | acquired hold ttl renewed => exact (refused _ rfl).elim
        | conflict c =>
          obtain ⟨⟨⟩, v', rfl, last⟩ := ends_ask.1 rest'
          obtain ⟨rfl, rfl⟩ := ends_done.1 last
          refine .refused (before.append (nothing.append ?_)) ?_ ?_
          · simp [Uncommitted, Heard.commits]
          · rw [events_append, events_append, silent, still]
            rfl
          · rintro o ⟨⟩
            exact trivial
      · obtain rfl := Except.ok.inj eq
        obtain ⟨⟨⟩, v', rfl, rest''⟩ := ends_ask.1 rest'
        obtain ⟨⟨⟩, v'', rfl, last⟩ := ends_ask.1 rest''
        obtain ⟨rfl, rfl⟩ := ends_done.1 last
        rw [events_append, List.append_eq_nil_iff] at still
        have course : Acquiring policy slot claimant ttl _ (.ok (.acquired hold ttl renewed)) :=
          .acquired w renewed (List.mem_append_left t₃ (ends_openSlot opened))
            (before.append nothing) (by rw [events_append, silent, still.1]; rfl) own
        simpa using course

/-! ## Releases -/

/-- A release that took nothing away has found no hold of the claimant. -/
def ReleaseOutcome.Kept : ReleaseOutcome → Prop
  | .released _ => False
  | .noHold => True
  | .notOwner => True

/-- What a release takes away, by its outcome: a hold that the claimant owns, and some entries. -/
def Released (slot : SlotId) (claimant : Claimant) (writes : List Write) (o : ReleaseOutcome) :
    Prop :=
  ∃ hold : HoldRecord, ∃ stale : List String, o = .released hold.day ∧
    hold.isOwnedBy claimant = true ∧ writes = .delete (Key.hold slot) :: stale.map .delete

/-- The deletes that are gathered come after the first ones. -/
theorem ends_staleDeletes {w w' : Watch} {writes writes' : List Write} {keys : List String}
    (ends : (staleDeletes slot w writes keys).Ends t (.ok (w', writes'))) :
    ∃ stale : List String, writes' = writes ++ stale.map .delete := by
  induction keys generalizing w writes t with
  | nil =>
    obtain ⟨-, eq⟩ := ends_done.1 ends
    exact ⟨[], by simp [(Prod.mk.inj (Except.ok.inj eq)).2]⟩
  | cons key keys ih =>
    obtain ⟨_, _, later, -, -, rest⟩ := ends_bind_ok.1 ends
    obtain ⟨_, _, named, -, -, rest'⟩ := ends_bind_ok.1 rest
    split at rest'
    · obtain ⟨stale, rfl⟩ := ih rest'
      exact ⟨key :: stale, by simp⟩
    · exact ih rest'

/-- **One transaction decides an attempt to release a slot.** -/
theorem decides_tryRelease :
    (tryRelease slot claimant).Decides ReleaseOutcome.Kept (Released slot claimant) := by
  refine decides_bind (looks_ask rfl) fun w => decides_bind (looks_readHold slot) fun found => ?_
  cases found with
  | none => exact decides_done trivial
  | some hold =>
    dsimp only
    split
    · rename_i owned
      intro t r ends
      rcases ends_bind.1 ends with ⟨e, failed, rfl⟩ | ⟨t₁, t₂, ⟨w', writes⟩, rfl, gathered, last⟩
      · have looks := (looks_staleDeletes _ _ _ _).ends failed
        exact .inl ⟨uncommitted_of_looks looks, fun a eq => nomatch eq⟩
      · have before := uncommitted_of_looks ((looks_staleDeletes _ _ _ _).ends gathered)
        obtain ⟨stale, rfl⟩ := ends_staleDeletes gathered
        have decides : (transact w' ([.delete (Key.hold slot)] ++ stale.map .delete)
            (ReleaseOutcome.released hold.day)).Decides ReleaseOutcome.Kept
              (Released slot claimant) :=
          decides_transact ⟨hold, stale, rfl, owned, rfl⟩
        rcases decides t₂ r last with ⟨behind, value⟩ | ⟨t₀, w, writes, a, rfl, behind, rest⟩
        · exact .inl ⟨before.append behind, value⟩
        · exact .inr ⟨t₁ ++ t₀, w, writes, a, (List.append_assoc _ _ _).symm,
            before.append behind, rest⟩
    · exact decides_done trivial

/-- **How a release ends**: it told nobody; or it took a hold away that the claimant owned, and then
told the room. -/
inductive Releasing (slot : SlotId) (claimant : Claimant) :
    List Heard → Except Failure ReleaseOutcome → Prop where
  | kept {t : List Heard} {r : Except Failure ReleaseOutcome} (silent : events t = [])
    (kept : ∀ o, r = .ok o → o.Kept) : Releasing slot claimant t r
  | released {t₀ : List Heard} (w : Watch) {hold : HoldRecord} (stale : List String)
    (before : Uncommitted t₀) (silent : events t₀ = []) (owned : hold.isOwnedBy claimant = true) :
    Releasing slot claimant
      (t₀ ++ committed w (.delete (Key.hold slot) :: stale.map .delete) ::
        [⟨.count (.holdsReleased "released") 1, ()⟩, ⟨.announce (.released slot hold.day), ()⟩])
      (.ok (.released hold.day))

/-- **A release ends in no other way.** -/
theorem releasing_of_ends {r : Except Failure ReleaseOutcome}
    (ends : (release policy slot claimant).Ends t r) : Releasing slot claimant t r := by
  have tries : (retrying policy .release (tryRelease slot claimant)).Tries :=
    tries_tryUpTo (tries_tryRelease slot claimant) _
  rcases ends_bind.1 ends with ⟨e, failed, rfl⟩ | ⟨t₁, u, outcome, rfl, tried, rest⟩
  · exact .kept (events_eq_nil (tries.ends failed)) fun o eq => nomatch eq
  · have still := events_eq_nil (tries.ends tried)
    obtain ⟨⟨⟩, v, rfl, rest'⟩ := ends_ask.1 rest
    rcases decided_of_ends decides_tryRelease tried with
      ⟨nothing, kept⟩ | ⟨t₀, w, writes, o, rfl, nothing, eq, hold, stale, rfl, owned, rfl⟩
    · have kept := kept _ rfl
      cases outcome with
      | released day => exact kept.elim
      | notOwner =>
        obtain ⟨rfl, rfl⟩ := ends_done.1 rest'
        refine .kept (by rw [events_append, still]; rfl) ?_
        rintro o ⟨⟩
        exact kept
      | noHold =>
        change (clearDangling slot (indexKeys claimant.holder claimant.session) >>= fun _ =>
          (.done .noHold : Program Failure ReleaseOutcome)).Ends v r at rest'
        rcases ends_bind.1 rest' with ⟨e, failed, rfl⟩ | ⟨t₂, t₃, ⟨⟩, rfl, cleared, last⟩
        · have silent := events_eq_nil ((tries_clearDangling _ _).ends failed)
          exact .kept (by rw [events_append, still]; exact silent) fun o eq => nomatch eq
        · obtain ⟨rfl, rfl⟩ := ends_done.1 last
          have silent := events_eq_nil ((tries_clearDangling _ _).ends cleared)
          rw [List.append_nil]
          refine .kept (by rw [events_append, still]; exact silent) ?_
          rintro o ⟨⟩
          exact kept
    · obtain rfl := Except.ok.inj eq
      obtain ⟨⟨⟩, v', rfl, last⟩ := ends_ask.1 rest'
      obtain ⟨rfl, rfl⟩ := ends_done.1 last
      rw [events_append, List.append_eq_nil_iff] at still
      have course : Releasing slot claimant _ (.ok (.released hold.day)) :=
        .released w stale nothing still.1 owned
      simpa [ReleaseOutcome.reason] using course

/-! ## How many transactions there are -/

/-- Is the effect a transaction? -/
def Effect.execs : Effect → Bool
  | .store (.exec ..) => true
  | _ => false

/-- Who looks runs no transaction. -/
theorem Effect.execs_of_looks {e : Effect} (h : e.looks = true) : e.execs = false := by
  unfold execs
  split
  · cases h
  · rfl

/-- The program asks for effects of the kind so many times at most, whatever it hears. -/
def Program.AtMost {ε α : Type} (kind : Effect → Bool) : Program ε α → Nat → Prop
  | ask e next, k =>
    (kind e).toNat ≤ k ∧ ∀ reply, (next reply).AtMost kind (k - (kind e).toNat)
  | _, _ => True

namespace Program.AtMost

variable {ε α β : Type} {kind : Effect → Bool} {p : Program ε α} {k k' : Nat}

/-- A bound may be larger. -/
theorem mono (h : p.AtMost kind k) (le : k ≤ k') : p.AtMost kind k' := by
  induction p generalizing k k' with
  | done a => exact trivial
  | fail e => exact trivial
  | ask e next ih => exact ⟨Nat.le_trans h.1 le, fun reply => ih reply (h.2 reply) (by omega)⟩

/-- Of two programs in a row, the bounds add up. -/
theorem bind {f : α → Program ε β} (h : p.AtMost kind k) (rest : ∀ a, (f a).AtMost kind k') :
    (p >>= f).AtMost kind (k + k') := by
  induction p generalizing k with
  | done a => exact (rest a).mono (Nat.le_add_left _ _)
  | fail e => exact trivial
  | ask e next ih =>
    obtain ⟨now, later⟩ := h
    refine ⟨by omega, fun reply => ?_⟩
    have same : k + k' - (kind e).toNat = k - (kind e).toNat + k' := by omega
    rw [same]
    exact ih reply (later reply)

/-- A program without effects of the kind. -/
theorem of_only (h : p.Only (kind · = false)) : p.AtMost kind k := by
  induction p generalizing k with
  | done a => exact trivial
  | fail e => exact trivial
  | ask e next ih =>
    refine ⟨by simp [h.1], fun reply => ?_⟩
    simpa [h.1] using ih reply (h.2 reply)

/-- **What a program has asked for so far counts against its bound.** -/
theorem after (h : p.AtMost kind k) {t : List Heard} {q : Program ε α}
    (left : p.after t = some q) :
    t.countP (kind ·.effect) ≤ k ∧ q.AtMost kind (k - t.countP (kind ·.effect)) := by
  induction t generalizing p k with
  | nil =>
    obtain rfl := Option.some.inj left
    exact ⟨Nat.zero_le k, h⟩
  | cons heard t ih =>
    cases p with
    | done a => cases left
    | fail e => cases left
    | ask e next =>
      rcases after_ask_eq_some.1 left with ⟨none_heard, -⟩ | ⟨reply, u, eq, left⟩
      · cases none_heard
      · obtain ⟨rfl, rfl⟩ := List.cons.inj eq
        obtain ⟨now, later⟩ := h
        obtain ⟨bound, rest⟩ := ih (later reply) left
        have count : (⟨e, reply⟩ :: t).countP (kind ·.effect) =
            t.countP (kind ·.effect) + (kind e).toNat := by
          rw [List.countP_cons]
          cases kind e <;> rfl
        rw [count]
        refine ⟨by omega, ?_⟩
        rwa [Nat.sub_sub, Nat.add_comm] at rest

end Program.AtMost

/-- Who looks runs no transaction. -/
theorem Program.Looks.atMost {ε α : Type} {p : Program ε α} (h : p.Looks) (k : Nat) :
    p.AtMost Effect.execs k := .of_only (Only.mono h fun _ => Effect.execs_of_looks)

/-- Trying again runs as many transactions as there are tries, if a try runs one. -/
theorem atMost_tryUpTo {α : Type} {limit : Nat} {op : Operation}
    {attempt : Program Failure (Option α)} (once : attempt.AtMost Effect.execs 1) (attempts : Nat) :
    (tryUpTo limit op attempt attempts).AtMost Effect.execs attempts := by
  induction attempts with
  | zero => exact trivial
  | succ attempts ih =>
    refine (once.bind fun outcome => ?_).mono (Nat.le_of_eq (Nat.add_comm 1 attempts))
    cases outcome with
    | some a => exact trivial
    | none => exact (((looks_count _).atMost 0).bind fun _ => ih).mono (by omega)

/-- A transaction is one. -/
theorem atMost_transact {α : Type} (w : Watch) (writes : List Write) (a : α) :
    (transact w writes a).AtMost Effect.execs 1 := by
  refine ⟨Nat.le_refl 1, fun reply => ?_⟩
  rcases reply with reason | _ | _ <;> exact trivial

/-- An attempt to acquire a slot runs one transaction at most. -/
theorem atMost_tryAcquire (record : SlotRecord) (ttl : Nat) :
    (tryAcquire policy record claimant ttl).AtMost Effect.execs 1 := by
  have first : ∀ {α β : Type} {p : Program Failure α} {f : α → Program Failure β}, p.Looks →
      (∀ a, (f a).AtMost Effect.execs 1) → (p >>= f).AtMost Effect.execs 1 :=
    fun looks rest => (looks.atMost 0).bind rest
  have conflict : ∀ key conflict, (conflictOver key conflict).AtMost Effect.execs 1 :=
    fun key conflict => (looks_conflictOver key conflict).atMost 1
  refine first (looks_ask rfl) fun w => first (looks_isFenced _) fun fenced => ?_
  split
  · exact trivial
  · refine first (looks_readHold _) fun found => ?_
    cases found with
    | none =>
      refine first (looks_otherSlot _ _ _) fun named => ?_
      cases named with
      | none => exact atMost_transact _ _ _
      | some other =>
        refine first (looks_ask rfl) fun later => first (looks_readHold other) fun found => ?_
        cases found with
        | none => exact atMost_transact _ _ _
        | some hold =>
          dsimp only
          split
          · exact conflict _ _
          · exact atMost_transact _ _ _
    | some hold =>
      dsimp only
      split
      · exact atMost_transact _ _ _
      · exact conflict _ _

/-- **An acquire runs as many transactions as the policy allows tries, at most.** -/
theorem atMost_acquireFor (ttl : Nat) :
    (acquireFor policy slot claimant ttl).AtMost Effect.execs policy.maxAttempts := by
  have opens := (looks_openSlot slot).atMost 0
  refine (opens.bind fun record => ?_).mono (Nat.le_of_eq (Nat.zero_add policy.maxAttempts))
  have tries : (retrying policy .acquire (tryAcquire policy record claimant ttl)).AtMost
      Effect.execs policy.maxAttempts := atMost_tryUpTo (atMost_tryAcquire record ttl) _
  refine (tries.bind fun outcome => ?_).mono (Nat.le_of_eq (Nat.add_zero policy.maxAttempts))
  cases outcome with
  | acquired hold ttl renewed => exact ⟨Nat.le_refl 0, fun _ => ⟨Nat.le_refl 0, fun _ => trivial⟩⟩
  | conflict c => exact ⟨Nat.le_refl 0, fun _ => trivial⟩

end Holdfast.Reservation
