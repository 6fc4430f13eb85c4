import Holdfast.Proofs.Conduct.Looking
import Holdfast.Reservation.Acquire
import Holdfast.Reservation.Commit

/-!
# Trying again

A transaction that is aborted is tried again, up to a limit. What a call hears meanwhile falls into
rounds, one for each attempt that has to be made again, and a last attempt that decides
(`rounds_of_ends`).

* `Program.Tries`: a program whose effects are looks and transactions. Whatever an operation does
  before it is decided, is of this kind.
* `Program.Reports`: a program that fails exactly if the store fails it or holds what cannot be
  decoded, and whose value says whether its transaction was aborted.
-/

namespace Holdfast.Reservation

open Program

/-! ## Looks and transactions -/

/-- Is the effect a look or a transaction? -/
def Effect.tries : Effect → Bool
  | .store (.exec ..) => true
  | e => e.looks

/-- A look is a look or a transaction. -/
theorem Effect.tries_of_looks {e : Effect} (h : e.looks = true) : e.tries = true := by
  unfold tries
  split
  · rfl
  · exact h

/-- Every effect of the program is a look or a transaction. -/
def Program.Tries {ε α : Type} (p : Program ε α) : Prop := p.Only (Effect.tries · = true)

/-- A program that only looks tries nothing else. -/
theorem Program.Looks.tries {ε α : Type} {p : Program ε α} (h : p.Looks) : p.Tries :=
  Only.mono h fun _ => Effect.tries_of_looks

/-- Asking for a look or a transaction. -/
theorem tries_ask {r : Store.Request} (h : (Effect.store r).tries = true) : (ask r).Tries :=
  ⟨h, fun reply => .orFail _ reply⟩

/-- Carrying out a transaction. -/
theorem tries_transact {α : Type} (w : Watch) (writes : List Write) (a : α) :
    (transact w writes a).Tries := by
  refine (tries_ask rfl).bind ?_
  intro outcome
  cases outcome <;> exact trivial

/-- Trying again. -/
theorem tries_tryUpTo {α : Type} {limit : Nat} {op : Operation}
    {attempt : Program Failure (Option α)} (h : attempt.Tries) (attempts : Nat) :
    (tryUpTo limit op attempt attempts).Tries := by
  induction attempts with
  | zero => exact trivial
  | succ attempts ih =>
    refine h.bind ?_
    intro outcome
    cases outcome with
    | some a => exact trivial
    | none => exact (looks_count _).tries.bind fun _ => ih

/-- Gathering the deletes of entries. -/
theorem looks_staleDeletes (slot : SlotId) (w : Watch) (writes : List Write) (keys : List String) :
    (staleDeletes slot w writes keys).Looks := by
  induction keys generalizing w writes with
  | nil => exact trivial
  | cons key keys ih =>
    refine (looks_ask rfl).bind fun later => (looks_readIndex key).bind fun named => ?_
    split <;> exact ih _ _

/-- Taking a hold away. -/
theorem tries_removeHold {α : Type} (w : Watch) (slot : SlotId) (hold : HoldRecord) (a : α) :
    (removeHold w slot hold a).Tries :=
  (looks_staleDeletes _ _ _ _).tries.bind fun _ => tries_transact _ _ _

/-- An attempt to release a slot. -/
theorem tries_tryRelease (slot : SlotId) (claimant : Claimant) :
    (tryRelease slot claimant).Tries := by
  refine (looks_ask rfl).tries.bind fun w => (looks_readHold slot).tries.bind fun found => ?_
  cases found with
  | none => exact trivial
  | some hold =>
    dsimp only
    split
    · exact tries_removeHold _ _ _ _
    · exact trivial

/-- Clearing entries that name a slot without a hold. -/
theorem tries_clearDangling (slot : SlotId) (keys : List String) :
    (clearDangling slot keys).Tries := by
  induction keys with
  | nil => exact trivial
  | cons key keys ih =>
    refine (looks_ask rfl).tries.bind fun w => (looks_readIndex key).tries.bind fun named => ?_
    split
    · exact (tries_ask rfl).bind fun _ => ih
    · exact ih

/-- An attempt to mark a slot. -/
theorem tries_tryFence (slot : SlotId) (claimant : Claimant) : (tryFence slot claimant).Tries := by
  refine (looks_ask rfl).tries.bind fun w => (looks_isFenced slot).tries.bind fun fenced => ?_
  split
  · exact trivial
  · refine (looks_readHold slot).tries.bind fun found => ?_
    cases found with
    | none => exact trivial
    | some hold =>
      dsimp only
      split
      · exact tries_transact _ _ _
      · exact trivial

/-- An attempt to take away the hold that is left. -/
theorem tries_tryClear (slot : SlotId) : (tryClear slot).Tries := by
  refine (looks_ask rfl).tries.bind fun w => (looks_readHold slot).tries.bind fun found => ?_
  cases found with
  | none => exact trivial
  | some hold => exact tries_removeHold _ _ _ _

/-- Looking for a slot that can be held. -/
theorem looks_openSlot (slot : SlotId) : (openSlot slot).Looks := by
  have admission : admission.Looks := ⟨rfl, fun _ => trivial⟩
  refine admission.bind fun a => ?_
  cases a with
  | closed => exact trivial
  | days enabled =>
    refine (looks_find slot).bind fun r => ?_
    split
    · exact trivial
    · split <;> exact trivial

section never

variable {policy : Policy} (never : policy.maxAttempts = 0)

include never

/-- Without any attempt, trying again fails at once. -/
theorem looks_retrying {α β : Type} (op : Operation) (attempt : Program Failure (Option α))
    (f : α → Program Failure β) : (retrying policy op attempt >>= f).Looks := by
  unfold retrying
  rw [never]
  exact trivial

/-- Without any attempt, an acquire only looks. -/
theorem looks_acquireFor (slot : SlotId) (claimant : Claimant) (ttl : Nat) :
    (acquireFor policy slot claimant ttl).Looks :=
  (looks_openSlot slot).bind fun _ => looks_retrying never _ _ _

/-- Without any attempt, a release does nothing. -/
theorem looks_release (slot : SlotId) (claimant : Claimant) :
    (release policy slot claimant).Looks := looks_retrying never _ _ _

/-- Without any attempt, a commit only looks. -/
theorem looks_commit (slot : SlotId) (claimant : Claimant) :
    (commit policy slot claimant).Looks := by
  refine (looks_find slot).bind fun r => ?_
  split
  · exact trivial
  · exact looks_retrying never _ _ _

end never

/-- Reporting a conflict. -/
theorem looks_conflictOver (key : String) (conflict : Nat → Conflict) :
    (conflictOver key conflict).Looks := (looks_ask rfl).bind fun _ => trivial

/-- Looking for another slot of the holder. -/
theorem looks_otherSlot (policy : Policy) (slot : SlotId) (holder : HolderId) :
    (otherSlot policy slot holder).Looks := by
  unfold otherSlot
  split
  · exact (looks_readIndex _).bind fun _ => trivial
  · exact trivial

/-- An attempt to acquire a slot that has no hold. -/
theorem tries_placeNew (policy : Policy) (w : Watch) (slot : SlotRecord) (claimant : Claimant)
    (ttl : Nat) : (placeNew policy w slot claimant ttl).Tries := by
  refine (looks_otherSlot _ _ _).tries.bind fun named => ?_
  cases named with
  | none => exact tries_transact _ _ _
  | some slot' =>
    refine (looks_ask rfl).tries.bind fun later => (looks_readHold slot').tries.bind fun found => ?_
    cases found with
    | none => exact tries_transact _ _ _
    | some hold =>
      dsimp only
      split
      · exact (looks_conflictOver _ _).tries
      · exact tries_transact _ _ _

/-- An attempt to acquire a slot. -/
theorem tries_tryAcquire (policy : Policy) (slot : SlotRecord) (claimant : Claimant) (ttl : Nat) :
    (tryAcquire policy slot claimant ttl).Tries := by
  refine (looks_ask rfl).tries.bind fun w => (looks_isFenced slot.id).tries.bind fun fenced => ?_
  split
  · exact trivial
  · refine (looks_readHold slot.id).tries.bind fun found => ?_
    cases found with
    | none => exact tries_placeNew _ _ _ _ _
    | some hold =>
      dsimp only
      split
      · exact tries_transact _ _ _
      · exact (looks_conflictOver _ _).tries

/-! ## Rounds -/

/-- What is heard in some rounds of attempts that all have to be made again. -/
inductive Rounds {α : Type} (op : Operation) (attempt : Program Failure (Option α)) :
    Nat → List Heard → Prop where
  | nil : Rounds op attempt 0 []
  | again {k : Nat} {t u : List Heard} (first : attempt.Ends t (.ok none))
    (rest : Rounds op attempt k u) :
    Rounds op attempt (k + 1) (t ++ ⟨.count (.retries op) 1, ()⟩ :: u)

/-- **How trying again comes to an end**: after fewer rounds than it may make, with an attempt that
gives a value or fails; or after all of them. -/
theorem rounds_of_ends {α : Type} {limit : Nat} {op : Operation}
    {attempt : Program Failure (Option α)} {attempts : Nat} {t : List Heard} {r : Except Failure α}
    (ends : (tryUpTo limit op attempt attempts).Ends t r) :
    (∃ k t₀ t₁, k < attempts ∧ t = t₀ ++ t₁ ∧ Rounds op attempt k t₀ ∧
        attempt.Ends t₁ (r.map some)) ∨
      Rounds op attempt attempts t ∧ r = .error (.retriesExhausted limit) := by
  induction attempts generalizing t with
  | zero =>
    obtain ⟨rfl, rfl⟩ := ends_fail.1 ends
    exact .inr ⟨.nil, rfl⟩
  | succ attempts ih =>
    rcases ends_bind.1 ends with ⟨e, failed, rfl⟩ | ⟨t₀, t₁, outcome, rfl, tried, rest⟩
    · exact .inl ⟨0, [], t, Nat.succ_pos _, rfl, .nil, failed⟩
    · cases outcome with
      | some a =>
        obtain ⟨rfl, rfl⟩ := ends_done.1 rest
        exact .inl ⟨0, [], t₀, Nat.succ_pos _, List.append_nil _, .nil, tried⟩
      | none =>
        obtain ⟨reply, u, rfl, again⟩ := ends_ask.1 rest
        rcases ih again with ⟨k, u₀, u₁, lt, rfl, rounds, last⟩ | ⟨rounds, rfl⟩
        · exact .inl ⟨k + 1, t₀ ++ ⟨_, reply⟩ :: u₀, u₁, Nat.succ_lt_succ lt, by simp,
            .again tried rounds, last⟩
        · exact .inr ⟨.again tried rounds, rfl⟩

/-- What trying again gives, an attempt gave. -/
theorem ends_retrying {α : Type} {policy : Policy} {op : Operation}
    {attempt : Program Failure (Option α)} {t : List Heard} {a : α}
    (ends : (retrying policy op attempt).Ends t (.ok a)) :
    ∃ t₀ t₁, t = t₀ ++ t₁ ∧ attempt.Ends t₁ (.ok (some a)) := by
  rcases rounds_of_ends ends with ⟨k, t₀, t₁, -, rfl, -, last⟩ | ⟨-, eq⟩
  · exact ⟨t₀, t₁, rfl, last⟩
  · cases eq

/-! ## What programs report -/

/-- Did the store fail what it was asked for? -/
def Heard.failed : Heard → Bool
  | ⟨.store _, .error _⟩ => true
  | _ => false

/-- Did the store abort a transaction? -/
def Heard.aborted : Heard → Bool
  | ⟨.store (.exec ..), .ok .aborted⟩ => true
  | _ => false

/-- The store held a text that cannot be decoded where a hold or an entry that names a slot belongs.
-/
inductive Heard.Garbled : Heard → Prop where
  | hold {slot : SlotId} {text : String} (h : HoldRecord.decode? text = none) :
    Garbled ⟨.store (.read (Key.hold slot)), .ok (some text)⟩
  | index {holder : HolderId} {session : Option SessionId} {key text : String}
    (index : key ∈ indexKeys holder session) (h : SlotId.read? text = none) :
    Garbled ⟨.store (.read key), .ok (some text)⟩

/-- The program fails exactly if the store failed it or held what cannot be decoded, and its value
says how many of its transactions were aborted. -/
def Program.Reports {α : Type} (p : Program Failure α) (aborts : α → Nat) : Prop :=
  ∀ t r, p.Ends t r →
    match r with
    | .ok a => (∀ h ∈ t, h.failed = false) ∧ t.countP Heard.aborted = aborts a
    | .error _ => ∃ h ∈ t, h.failed = true ∨ h.Garbled

/-- Programs one after the other, where only the second one runs transactions. -/
theorem Program.Reports.bind {α β : Type} {p : Program Failure α} {f : α → Program Failure β}
    {aborts : β → Nat} (first : p.Reports fun _ => 0) (rest : ∀ a, (f a).Reports aborts) :
    (p >>= f).Reports aborts := by
  intro t r ends
  rcases ends_bind.1 ends with ⟨e, failed, rfl⟩ | ⟨t₀, t₁, a, rfl, done, last⟩
  · exact first t _ failed
  · have before := first t₀ _ done
    have behind := rest a t₁ r last
    cases r with
    | error e =>
      obtain ⟨h, mem, why⟩ := behind
      exact ⟨h, List.mem_append_right _ mem, why⟩
    | ok b =>
      refine ⟨List.forall_mem_append.2 ⟨before.1, behind.1⟩, ?_⟩
      rw [List.countP_append, before.2, behind.2, Nat.zero_add]

/-- A program that is over with a value. -/
theorem reports_done {α : Type} {a : α} {aborts : α → Nat} (none_aborted : aborts a = 0) :
    (done a : Program Failure α).Reports aborts := by
  intro t r ends
  obtain ⟨rfl, rfl⟩ := ends_done.1 ends
  exact ⟨by simp, none_aborted.symm⟩

/-- What is heard of a request to the store. -/
theorem ends_store {r : Store.Request} {t : List Heard} {res : Except Failure r.Answer}
    (ends : (ask r).Ends t res) :
    (∃ a, t = [⟨.store r, .ok a⟩] ∧ res = .ok a) ∨
      ∃ reason, t = [⟨.store r, .error reason⟩] ∧ res = .error (.store (.unavailable reason)) := by
  obtain ⟨reply, u, rfl, rest⟩ := ends_ask.1 ends
  cases reply with
  | ok a =>
    obtain ⟨rfl, rfl⟩ := ends_done.1 rest
    exact .inl ⟨a, rfl, rfl⟩
  | error reason =>
    obtain ⟨rfl, rfl⟩ := ends_fail.1 rest
    exact .inr ⟨reason, rfl, rfl⟩

/-- Watching keys. -/
theorem reports_watch (keys : List String) : (ask (.watch keys)).Reports fun _ => 0 := by
  intro t r ends
  rcases ends_store ends with ⟨a, rfl, rfl⟩ | ⟨reason, rfl, rfl⟩
  · exact ⟨by simp [Heard.failed], by simp [Heard.aborted]⟩
  · exact ⟨_, List.mem_singleton_self _, .inl rfl⟩

/-- Reading a text and decoding it: what is no value was garbled. -/
theorem reports_decoded {β : Type} {key : String} {f : Option String → Program Failure β}
    (decoded : ∀ text, (∃ b, f text = done b) ∨
      (∃ e, f text = fail e) ∧ Heard.Garbled ⟨.store (.read key), .ok text⟩) :
    (ask (.read key) >>= f).Reports fun _ => 0 := by
  intro t r ends
  rcases ends_bind.1 ends with ⟨e, failed, rfl⟩ | ⟨t₀, t₁, text, rfl, read, last⟩
  · rcases ends_store failed with ⟨a, rfl, eq⟩ | ⟨reason, rfl, -⟩
    · cases eq
    · exact ⟨_, List.mem_singleton_self _, .inl rfl⟩
  · rcases ends_store read with ⟨a, rfl, eq⟩ | ⟨reason, rfl, eq⟩
    · obtain rfl := Except.ok.inj eq
      rcases decoded text with ⟨b, value⟩ | ⟨⟨e, error⟩, garbled⟩
      · rw [value] at last
        obtain ⟨rfl, rfl⟩ := ends_done.1 last
        exact ⟨by simp [Heard.failed], by simp [Heard.aborted]⟩
      · rw [error] at last
        obtain ⟨rfl, rfl⟩ := ends_fail.1 last
        exact ⟨_, List.mem_singleton_self _, .inr garbled⟩
    · cases eq

/-- Reading the hold on a slot. -/
theorem reports_readHold (slot : SlotId) : (readHold slot).Reports fun _ => 0 := by
  refine reports_decoded ?_
  intro text
  cases text with
  | none => exact .inl ⟨_, rfl⟩
  | some text =>
    simp only [HoldRecord.stored]
    cases decoded : HoldRecord.decode? text with
    | none => exact .inr ⟨⟨_, rfl⟩, .hold decoded⟩
    | some hold => exact .inl ⟨_, rfl⟩

/-- Reading an index. -/
theorem reports_readIndex {holder : HolderId} {session : Option SessionId} {key : String}
    (index : key ∈ indexKeys holder session) : (readIndex key).Reports fun _ => 0 := by
  refine reports_decoded ?_
  intro text
  cases text with
  | none => exact .inl ⟨_, rfl⟩
  | some text =>
    simp only [SlotId.stored]
    cases decoded : SlotId.read? text with
    | none => exact .inr ⟨⟨_, rfl⟩, .index index decoded⟩
    | some slot => exact .inl ⟨_, rfl⟩

/-- How many transactions of an attempt were aborted: one, if it has to be made again. -/
def abortsOf {α : Type} : Option α → Nat
  | some _ => 0
  | none => 1

/-- Carrying out a transaction. -/
theorem reports_transact {α : Type} (w : Watch) (writes : List Write) (a : α) :
    (transact w writes a).Reports abortsOf := by
  intro t r ends
  rcases ends_bind.1 ends with ⟨e, failed, rfl⟩ | ⟨t₀, t₁, outcome, rfl, asked, last⟩
  · rcases ends_store failed with ⟨a, rfl, eq⟩ | ⟨reason, rfl, -⟩
    · cases eq
    · exact ⟨_, List.mem_singleton_self _, .inl rfl⟩
  · rcases ends_store asked with ⟨outcome', rfl, eq⟩ | ⟨reason, rfl, eq⟩
    · obtain rfl := Except.ok.inj eq
      cases outcome with
      | committed =>
        obtain ⟨rfl, rfl⟩ := ends_done.1 last
        exact ⟨by simp [Heard.failed], by simp [Heard.aborted, abortsOf]⟩
      | aborted =>
        obtain ⟨rfl, rfl⟩ := ends_done.1 last
        exact ⟨by simp [Heard.failed], by simp [Heard.aborted, abortsOf]⟩
    · cases eq

/-- Gathering the deletes of entries. -/
theorem reports_staleDeletes {holder : HolderId} {session : Option SessionId} {keys : List String}
    (slot : SlotId) (w : Watch) (writes : List Write)
    (index : ∀ key ∈ keys, key ∈ indexKeys holder session) :
    (staleDeletes slot w writes keys).Reports fun _ => 0 := by
  induction keys generalizing w writes with
  | nil => exact reports_done rfl
  | cons key keys ih =>
    have rest : ∀ w writes, (staleDeletes slot w writes keys).Reports fun _ => 0 :=
      fun w writes => ih w writes fun key' mem => index key' (List.mem_cons_of_mem _ mem)
    refine (reports_watch _).bind fun later =>
      (reports_readIndex (index key List.mem_cons_self)).bind fun named => ?_
    split <;> exact rest _ _

/-- An attempt to take away the hold that is left. -/
theorem reports_tryClear (slot : SlotId) : (tryClear slot).Reports abortsOf := by
  refine (reports_watch _).bind fun w => (reports_readHold slot).bind fun found => ?_
  cases found with
  | none => exact reports_done rfl
  | some hold =>
    exact (reports_staleDeletes _ _ _ fun _ => id).bind fun _ => reports_transact _ _ _

/-- In every round one transaction was aborted, and the store did not fail. -/
theorem Rounds.aborts {α : Type} {op : Operation} {attempt : Program Failure (Option α)} {k : Nat}
    {t : List Heard} (rounds : Rounds op attempt k t) (reports : attempt.Reports abortsOf) :
    (∀ h ∈ t, h.failed = false) ∧ t.countP Heard.aborted = k := by
  induction rounds with
  | nil => exact ⟨by simp, rfl⟩
  | again first rest ih =>
    have once := reports _ _ first
    refine ⟨List.forall_mem_append.2 ⟨once.1, List.forall_mem_cons.2 ⟨rfl, ih.1⟩⟩, ?_⟩
    rw [List.countP_append, List.countP_cons, once.2, ih.2, abortsOf]
    simp [Heard.aborted, Nat.add_comm]

/-- **When trying again comes to nothing**: if it gives a value, the store never failed and aborted
fewer transactions than it may try; if it fails, the store failed, or held what cannot be decoded, or
aborted all of them. -/
theorem aborts_of_ends {α : Type} {limit : Nat} {op : Operation}
    {attempt : Program Failure (Option α)} {attempts : Nat} {t : List Heard} {r : Except Failure α}
    (reports : attempt.Reports abortsOf) (ends : (tryUpTo limit op attempt attempts).Ends t r) :
    match r with
    | .ok _ => (∀ h ∈ t, h.failed = false) ∧ t.countP Heard.aborted < attempts
    | .error _ => (∃ h ∈ t, h.failed = true ∨ h.Garbled) ∨ t.countP Heard.aborted = attempts := by
  rcases rounds_of_ends ends with ⟨k, t₀, t₁, lt, rfl, rounds, last⟩ | ⟨rounds, rfl⟩
  · have before := rounds.aborts reports
    have behind := reports _ _ last
    cases r with
    | ok a =>
      refine ⟨List.forall_mem_append.2 ⟨before.1, behind.1⟩, ?_⟩
      rw [List.countP_append, before.2, behind.2, abortsOf]
      exact lt
    | error e =>
      obtain ⟨h, mem, why⟩ := behind
      exact .inl ⟨h, List.mem_append_right _ mem, why⟩
  · exact .inr (rounds.aborts reports).2

end Holdfast.Reservation
