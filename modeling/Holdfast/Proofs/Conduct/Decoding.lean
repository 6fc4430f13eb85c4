import Holdfast.Proofs.Conduct.Composition
import Holdfast.Proofs.Conduct.Contents
import Holdfast.Proofs.Store.Scans

/-!
# What stands where it belongs can be decoded

A program fails to decode a text, or counts one that it skips, only if the store gave it a text under
a key where it does not belong (`Program.Decodes`, `decodes_call`). In a run the store never does
(`Run.sound_of_hears`).
-/

namespace Holdfast.Reservation

open Program

/-- Under the keys of holders and of connections, slots are written. -/
theorem Written.slot_of_startsWith {key text : String} (h : Written key text)
    (starts : Store.startsWith Key.holderStart key = true ∨
      Store.startsWith Key.sessionStart key = true) : ∃ slot, SlotId.read? text = some slot := by
  have other : ∀ {word rest : String}, key = word ++ rest →
      ¬ Key.holderStart.toList <+: word.toList → ¬ word.toList <+: Key.holderStart.toList →
      ¬ Key.sessionStart.toList <+: word.toList → ¬ word.toList <+: Key.sessionStart.toList →
      False := by
    intro word rest eq holder holder' session session'
    have front : word.toList <+: key.toList := by
      rw [eq, String.toList_append]
      exact List.prefix_append _ _
    rcases starts with starts | starts
    · rcases List.prefix_or_prefix_of_prefix (List.isPrefixOf_iff_prefix.1 starts) front with p | p
      · exact holder p
      · exact holder' p
    · rcases List.prefix_or_prefix_of_prefix (List.isPrefixOf_iff_prefix.1 starts) front with p | p
      · exact session p
      · exact session' p
  cases h with
  | hold hold => exact (other rfl (by decide) (by decide) (by decide) (by decide)).elim
  | booked slot text => exact (other rfl (by decide) (by decide) (by decide) (by decide)).elim
  | holder holder slot => exact ⟨slot, SlotId.read?_text slot⟩
  | session session slot => exact ⟨slot, SlotId.read?_text slot⟩

/-! ## Programs that decode what they are given -/

/-- What the store gave stands where it belongs. -/
def Heard.Sound : Heard → Prop
  | ⟨.store (.read key), .ok (some text)⟩ => Written key text
  | ⟨.store (.scan start ..), .ok page⟩ =>
    ∀ e ∈ page.entries, Written e.1 e.2 ∧ Store.startsWith start e.1 = true
  | ⟨.store .evict, .ok evicted⟩ =>
    let entries : List (String × String) := evicted
    ∀ e ∈ entries, Written e.1 e.2
  | _ => True

/-- **The program decodes whatever it is given**: as long as that stands where it belongs, it ends
with no bad error and counts no text that cannot be decoded. -/
def Program.Decodes {ε α : Type} (bad : ε → Bool) : Program ε α → Prop
  | .done _ => True
  | .fail e => bad e = false
  | .ask e next => (∀ n, e ≠ .count .decodeFailures n) ∧
      ∀ reply, Heard.Sound ⟨e, reply⟩ → (next reply).Decodes bad

namespace Program.Decodes

variable {ε ε' α β : Type} {bad : ε → Bool} {p : Program ε α} {t : List Heard}

/-- Asking for one effect. -/
theorem perform {e : Effect} (h : e.isPlain = true) :
    (Program.perform e : Program ε e.Reply).Decodes bad := by
  refine ⟨?_, fun _ _ => trivial⟩
  rintro n rfl
  cases h

/-- Programs one after the other. -/
theorem bind {f : α → Program ε β} (h : p.Decodes bad) (rest : ∀ a, (f a).Decodes bad) :
    (p >>= f).Decodes bad := by
  induction p with
  | done a => exact rest a
  | fail e => exact h
  | ask e next ih => exact ⟨h.1, fun reply sound => ih reply (h.2 reply sound)⟩

/-- A program whose error is a value. -/
theorem attempt {bad' : ε' → Bool} (h : p.Decodes bad) :
    (p.attempt : Program ε' (Except ε α)).Decodes bad' := by
  induction p with
  | done a => exact trivial
  | fail e => exact trivial
  | ask e next ih => exact ⟨h.1, fun reply sound => ih reply (h.2 reply sound)⟩

/-- What is left of the program decodes whatever it is given. -/
theorem after (h : p.Decodes bad) (sound : ∀ heard ∈ t, heard.Sound) {q : Program ε α}
    (left : p.after t = some q) : q.Decodes bad := by
  induction t generalizing p with
  | nil =>
    obtain rfl := Option.some.inj left
    exact h
  | cons heard t ih =>
    obtain ⟨first, others⟩ := List.forall_mem_cons.1 sound
    cases p with
    | done a => cases left
    | fail e => cases left
    | ask e next =>
      rcases after_ask_eq_some.1 left with ⟨none_heard, -⟩ | ⟨reply, u, eq, left⟩
      · cases none_heard
      · obtain ⟨rfl, rfl⟩ := List.cons.inj eq
        exact ih (h.2 reply first) others left

/-- The program ends with no bad error. -/
theorem ends (h : p.Decodes bad) (sound : ∀ heard ∈ t, heard.Sound) {e : ε}
    (ends : p.Ends t (.error e)) : bad e = false := h.after sound ends

/-- The program counts no text that cannot be decoded. -/
theorem asks (h : p.Decodes bad) (sound : ∀ heard ∈ t, heard.Sound) {x : Effect}
    (asks : p.Asks t x) (n : Nat) : x ≠ .count .decodeFailures n := by
  obtain ⟨next, left⟩ := asks
  exact (h.after sound left).1 n

end Program.Decodes

/-- Asking the store, and going on with what it gives. -/
theorem decodes_ask {r : Store.Request} {α : Type} {f : r.Answer → Program Failure α}
    (rest : ∀ a, Heard.Sound ⟨.store r, .ok a⟩ → (f a).Decodes Failure.isUndecodable) :
    (ask r >>= f).Decodes Failure.isUndecodable := by
  refine ⟨by simp, fun reply sound => ?_⟩
  cases reply with
  | ok a => exact rest a sound
  | error reason => exact (rfl : Failure.isUndecodable (.store (.unavailable reason)) = false)

/-- Reading the hold on a slot. -/
theorem decodes_readHold (slot : SlotId) : (readHold slot).Decodes Failure.isUndecodable := by
  refine decodes_ask fun text sound => ?_
  cases text with
  | none => exact trivial
  | some text =>
    obtain ⟨hold, rfl, -⟩ := Written.hold_of_key sound rfl
    dsimp only
    rw [HoldRecord.stored, hold.decode?_encode]
    exact trivial

/-- Reading an index. -/
theorem decodes_readIndex {holder : HolderId} {session : Option SessionId} {key : String}
    (index : key ∈ indexKeys holder session) : (readIndex key).Decodes Failure.isUndecodable := by
  refine decodes_ask fun text sound => ?_
  cases text with
  | none => exact trivial
  | some text =>
    obtain ⟨slot, decoded⟩ := Written.slot_of_index sound index
    dsimp only
    rw [SlotId.stored, decoded]
    exact trivial

/-- Programs decode what they are given if their parts do. -/
theorem composes_decodes :
    Composes fun α (p : Program Failure α) => p.Decodes Failure.isUndecodable where
  done _ := trivial
  fail h := h
  bind := .bind
  attempt := .attempt
  perform := .perform
  readHold := decodes_readHold
  readIndex := decodes_readIndex

/-- The rows of a page. -/
theorem decodes_rowsOf {entries : List (String × String)}
    (sound : ∀ e ∈ entries, Written e.1 e.2 ∧ Store.startsWith Key.holdStart e.1 = true) :
    (rowsOf entries).Decodes Failure.isUndecodable := by
  induction entries with
  | nil => exact trivial
  | cons entry rest ih =>
    obtain ⟨⟨written, isHold⟩, others⟩ := List.forall_mem_cons.1 sound
    obtain ⟨key, text⟩ := entry
    obtain ⟨hold, rfl, rfl⟩ := written.hold_of_isHold isHold
    rw [rowsOf, HoldRecord.stored, hold.decode?_encode]
    refine (composes_decodes.ask rfl).bind fun left => ?_
    cases left with
    | none => exact ih others
    | some ttl => exact (ih others).bind fun _ => trivial

/-- The rows of all pages. -/
theorem decodes_rowsFrom (cursor : Option String) (pages : Nat) :
    (rowsFrom cursor pages).Decodes Failure.isUndecodable := by
  induction pages generalizing cursor with
  | zero => exact (rfl : Failure.isUndecodable .endlessListing = false)
  | succ pages ih =>
    refine decodes_ask fun page sound => (decodes_rowsOf sound).bind fun rows => ?_
    split
    · exact trivial
    · rename_i next _
      exact (ih (some next)).bind fun _ => trivial

/-- Announcing what expired. -/
theorem decodes_announceExpired {evicted : List (String × String)} (before : Nat)
    (sound : ∀ e ∈ evicted, Written e.1 e.2) :
    (announceExpired before evicted).Decodes StoreError.isUndecodable := by
  induction evicted generalizing before with
  | nil => exact trivial
  | cons entry rest ih =>
    obtain ⟨written, others⟩ := List.forall_mem_cons.1 sound
    obtain ⟨key, text⟩ := entry
    unfold announceExpired
    split
    · rename_i isHold
      obtain ⟨hold, rfl, rfl⟩ := written.hold_of_isHold isHold
      rw [HoldRecord.stored, hold.decode?_encode]
      exact (Decodes.perform rfl).bind fun _ => ih (before + 1) others
    · exact ih before others

/-- A pass over what expired. -/
theorem decodes_reap : reap.Decodes StoreError.isUndecodable := by
  refine ⟨by simp, fun reply sound => ?_⟩
  cases reply with
  | error reason => exact (rfl : StoreError.isUndecodable (.unavailable reason) = false)
  | ok evicted =>
    exact (decodes_announceExpired 0 sound).bind fun reaped =>
      (Decodes.perform rfl).bind fun _ => trivial

/-- **Every call decodes what it is given.** -/
theorem decodes_call (policy : Policy) (c : Call) :
    (c.program policy).Decodes Failure.isUndecodable :=
  composes_decodes.call policy c (fun _ => (decodes_rowsFrom none maxPages).bind fun _ => trivial)
    fun _ => decodes_reap.attempt

/-! ## In a run -/

namespace Run

variable {ρ : Run} {n i : Nat} {e : Effect}

/-- What is read stands where it belongs. -/
theorem written_of_read {key text : String} (there : ρ.read? n key = some text) :
    Written key text := by
  obtain ⟨e, live, rfl⟩ := Option.map_eq_some_iff.1 there
  exact written (live?_iff_stored.1 live).1

/-- **Whatever the store of a run gives stands where it belongs.** -/
theorem sound_of_hears {reply : e.Reply} (hears : ρ.Hears n i e reply) :
    Heard.Sound ⟨e, reply⟩ := by
  cases e with
  | store r =>
    cases reply with
    | error reason => cases r <;> exact trivial
    | ok a =>
      cases r with
      | read key =>
        cases a with
        | none => exact trivial
        | some text => exact written_of_read (answer_of_hears hears nofun).symm
      | scan start cursor count =>
        rintro ⟨key, text⟩ mem
        rw [answer_of_hears hears nofun] at mem
        obtain ⟨there, starts⟩ := Store.mem_scan mem
        exact ⟨written_of_read there, starts⟩
      | evict =>
        rintro ⟨key, text⟩ mem
        rw [answer_of_hears hears nofun] at mem
        obtain ⟨e, there, rfl, -⟩ := Store.mem_evict.1 mem
        exact written there
      | _ => exact trivial
  | _ => exact trivial

/-- Whatever a call has heard from the store stands where it belongs. -/
theorem sound_heard {b : Nat} : ∀ h ∈ ρ.heard i b n, h.Sound := by
  intro h mem
  obtain ⟨k, -, -, hears⟩ := mem_heard.1 mem
  exact sound_of_hears hears

end Run
end Holdfast.Reservation
