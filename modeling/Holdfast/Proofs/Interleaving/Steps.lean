import Holdfast.Proofs.Interleaving.Pledge
import Holdfast.Reservation.Ask

/-!
# What the steps of a call can be trusted with

One rule for each of the small programs that operations are made of. A step that looks at something
goes on with what was there when it looked; a transaction that commits was carried out; whatever is
tried again and again comes to an end with an attempt that succeeded.

Every rule asks what the rest promises of a value, and that it may fail at any time from now on.
-/

namespace Holdfast.Reservation

/-- Does the effect leave the store and the catalogue as they are? -/
def Effect.spares : Effect → Bool
  | .store (.read _) => true
  | .store (.remaining _) => true
  | .store (.scan ..) => true
  | .store (.watch _) => true
  | .store _ => false
  | .book _ => false
  | _ => true

/-- Does nobody notice the effect but who asks for it, and whoever reads the counters? -/
def Effect.looks : Effect → Bool
  | .announce _ => false
  | e => e.spares

/-- What nobody notices leaves the store and the catalogue as they are. -/
theorem Effect.spares_of_looks {e : Effect} (h : e.looks = true) : e.spares = true := by
  cases e with
  | announce e => cases h
  | _ => exact h

namespace Run

variable {ρ : Run} {i : Nat} {n : Nat} {α : Type} {pledge : Nat → Effect → Prop}

/-! ## Replies -/

/-- A store that is in reach answers truthfully, except that it may abort a transaction. -/
theorem answer_of_hears {r : Store.Request} {a : r.Answer}
    (hears : ρ.Hears n i (.store r) (.ok a)) (plain : ∀ w writes, r ≠ .exec w writes) :
    a = ((ρ.store n).answer (ρ.clock n) r).1 := by
  obtain ⟨-, ⟨-, truth⟩ | ⟨fault, -, failed⟩⟩ := hears
  · exact Except.ok.inj truth
  · cases r with
    | exec w writes => exact absurd rfl (plain w writes)
    | _ => cases fault <;> cases failed

/-- A request that got an answer was carried out, unless it was a transaction. -/
theorem performs_of_hears {r : Store.Request} {a : r.Answer}
    (hears : ρ.Hears n i (.store r) (.ok a)) (plain : ∀ w writes, r ≠ .exec w writes) :
    ρ.Performs n i (.store r) ∧ a = ((ρ.store n).answer (ρ.clock n) r).1 := by
  refine ⟨?_, answer_of_hears hears plain⟩
  obtain ⟨waits, ⟨move, -⟩ | ⟨fault, -, failed⟩⟩ := hears
  · exact ⟨move, waits⟩
  · cases r with
    | exec w writes => exact absurd rfl (plain w writes)
    | _ => cases fault <;> cases failed

/-- A transaction that is said to be committed is. -/
theorem commits_of_hears {w : Watch} {writes : List Write}
    (hears : ρ.Hears n i (.store (.exec w writes)) (.ok .committed)) : ρ.Commits n i w writes := by
  obtain ⟨waits, ⟨move, truth⟩ | ⟨fault, -, failed⟩⟩ := hears
  · exact ⟨⟨move, waits⟩, (Store.exec_committed_iff _ _ w writes).1 (Except.ok.inj truth).symm⟩
  · cases fault <;> cases failed

/-- A transaction that is committed is said to be. -/
theorem Commits.hears {w : Watch} {writes : List Write} (commits : ρ.Commits p i w writes) :
    ρ.Hears p i (.store (.exec w writes)) (.ok .committed) :=
  ⟨commits.1.2, .inl ⟨commits.1.1,
    congrArg Except.ok ((Store.exec_committed_iff _ _ w writes).2 commits.2).symm⟩⟩

/-! ## Single steps -/

section steps

variable {promise : Except Failure α → Nat → Prop}

/-- Asking the store. -/
theorem keeps_ask {r : Store.Request} {promise : Except Failure r.Answer → Nat → Prop}
    (effect : ∀ m, n ≤ m → pledge m (.store r))
    (value : ∀ m, n ≤ m → ∀ a, ρ.Hears m i (.store r) (.ok a) → promise (.ok a) (m + 1))
    (error : ∀ m, n ≤ m → ∀ e, promise (.error e) m) : ρ.Keeps i pledge promise (ask r) n := by
  intro m le quiet reply hears
  refine ⟨effect m le, ?_⟩
  cases reply with
  | ok a => exact value m le a hears
  | error reason => exact error (m + 1) (by omega) _

/-- Asking the store for anything but a transaction. -/
theorem keeps_query {r : Store.Request} {promise : Except Failure r.Answer → Nat → Prop}
    (plain : ∀ w writes, r ≠ .exec w writes) (effect : ∀ m, n ≤ m → pledge m (.store r))
    (value : ∀ m, n ≤ m → promise (.ok ((ρ.store m).answer (ρ.clock m) r).1) (m + 1))
    (error : ∀ m, n ≤ m → ∀ e, promise (.error e) m) : ρ.Keeps i pledge promise (ask r) n := by
  refine keeps_ask effect ?_ error
  intro m le a hears
  rw [answer_of_hears hears plain]
  exact value m le

/-- Telling a room. -/
theorem keeps_announce {e : RoomEvent} {promise : Except Failure Unit → Nat → Prop}
    (effect : ∀ m, n ≤ m → pledge m (.announce e))
    (value : ∀ m, n ≤ m → promise (.ok ()) (m + 1)) :
    ρ.Keeps i pledge promise (announce e) n :=
  fun m le _ _ _ => ⟨effect m le, value m le⟩

/-- A pledge that holds of whatever nobody notices. -/
def Sparing (pledge : Nat → Effect → Prop) : Prop := ∀ m e, e.looks = true → pledge m e

variable (sparing : Sparing pledge)

include sparing

/-- Reading a key. -/
theorem keeps_read {key : String} {promise : Except Failure (Option String) → Nat → Prop}
    (value : ∀ m, n ≤ m → promise (.ok (ρ.read? m key)) (m + 1))
    (error : ∀ m, n ≤ m → ∀ e, promise (.error e) m) :
    ρ.Keeps i pledge promise (ask (.read key)) n :=
  keeps_query (fun _ _ h => by cases h) (fun m _ => sparing m _ rfl) value error

/-- Watching keys. -/
theorem keeps_watch {keys : List String} {promise : Except Failure Watch → Nat → Prop}
    (value : ∀ m, n ≤ m → promise (.ok ((ρ.store m).watch (ρ.clock m) keys)) (m + 1))
    (error : ∀ m, n ≤ m → ∀ e, promise (.error e) m) :
    ρ.Keeps i pledge promise (ask (.watch keys)) n :=
  keeps_query (fun _ _ h => by cases h) (fun m _ => sparing m _ rfl) value error

/-- Asking for the time that is left. -/
theorem keeps_remaining {key : String} {promise : Except Failure (Option Nat) → Nat → Prop}
    (value : ∀ m, n ≤ m →
      promise (.ok ((ρ.store m).remaining? (ρ.clock m) key)) (m + 1))
    (error : ∀ m, n ≤ m → ∀ e, promise (.error e) m) :
    ρ.Keeps i pledge promise (ask (.remaining key)) n :=
  keeps_query (fun _ _ h => by cases h) (fun m _ => sparing m _ rfl) value error

/-- Reading the hold on a slot. -/
theorem keeps_readHold {slot : SlotId} {promise : Except Failure (Option HoldRecord) → Nat → Prop}
    (absent : ∀ m, n ≤ m → ρ.Unheld m slot → promise (.ok none) (m + 1))
    (found : ∀ m, n ≤ m → ∀ hold, ρ.Holds m slot hold → promise (.ok (some hold)) (m + 1))
    (error : ∀ m, n ≤ m → ∀ e, promise (.error e) m) :
    ρ.Keeps i pledge promise (readHold slot) n := by
  refine .bind (keeps_read sparing ?_ error)
  intro m le
  cases there : ρ.read? m (Key.hold slot) with
  | none => exact absent m le there
  | some text =>
    simp only [andThen, HoldRecord.stored]
    cases decoded : HoldRecord.decode? text with
    | none => exact error (m + 1) (by omega) _
    | some hold => exact found m le hold (by rw [Holds, there]; exact decoded)

/-- Reading an index. -/
theorem keeps_readIndex {key : String} {promise : Except Failure (Option SlotId) → Nat → Prop}
    (absent : ∀ m, n ≤ m → ρ.read? m key = none → promise (.ok none) (m + 1))
    (found : ∀ m, n ≤ m → ∀ slot, ρ.Names m key slot → promise (.ok (some slot)) (m + 1))
    (error : ∀ m, n ≤ m → ∀ e, promise (.error e) m) :
    ρ.Keeps i pledge promise (readIndex key) n := by
  refine .bind (keeps_read sparing ?_ error)
  intro m le
  cases there : ρ.read? m key with
  | none => exact absent m le there
  | some text =>
    simp only [andThen, SlotId.stored]
    cases decoded : SlotId.read? text with
    | none => exact error (m + 1) (by omega) _
    | some slot => exact found m le slot (by rw [Names, there]; exact decoded)

/-- Looking for the mark of a booking. -/
theorem keeps_isFenced {slot : SlotId} {promise : Except Failure Bool → Nat → Prop}
    (value : ∀ m, n ≤ m → ∀ fenced, (fenced = false ↔ ρ.read? m (Key.booked slot) = none) →
      promise (.ok fenced) (m + 1))
    (error : ∀ m, n ≤ m → ∀ e, promise (.error e) m) :
    ρ.Keeps i pledge promise (isFenced slot) n := by
  refine .bind (keeps_read sparing ?_ error)
  intro m le
  refine value m le _ ?_
  rw [Option.isSome_eq_false_iff, Option.isNone_iff_eq_none]

/-- Looking a slot up. -/
theorem keeps_lookup {slot : SlotId} {promise : Except Failure (Option SlotRecord) → Nat → Prop}
    (value : ∀ m, n ≤ m → promise (.ok ((ρ.catalogue m).get? slot)) (m + 1))
    (error : ∀ m, n ≤ m → ∀ e, promise (.error e) m) :
    ρ.Keeps i pledge promise (lookup slot) n := by
  intro m le quiet reply hears
  refine ⟨sparing m _ rfl, ?_⟩
  cases reply with
  | error e => exact error (m + 1) (by omega) _
  | ok r =>
    obtain ⟨-, ⟨-, truth⟩ | ⟨fault, -, failed⟩⟩ := hears
    · rw [Except.ok.inj truth]
      exact value m le
    · cases fault <;> cases failed

/-- Finding a slot. -/
theorem keeps_find {slot : SlotId} {promise : Except Failure SlotRecord → Nat → Prop}
    (value : ∀ m, n ≤ m → ∀ r, (ρ.catalogue m).get? slot = some r → promise (.ok r) (m + 1))
    (error : ∀ m, n ≤ m → ∀ e, promise (.error e) m) :
    ρ.Keeps i pledge promise (find slot) n := by
  refine .bind (keeps_lookup sparing ?_ error)
  intro m le
  cases found : (ρ.catalogue m).get? slot with
  | none => exact error (m + 1) (by omega) _
  | some r => exact value m le r found

/-- Asking which days can be held. -/
theorem keeps_admission {promise : Except Failure Admission → Nat → Prop}
    (value : ∀ m, n ≤ m → ∀ a, promise (.ok a) (m + 1)) :
    ρ.Keeps i pledge promise admission n :=
  fun m le _ reply _ => ⟨sparing m _ rfl, value m le reply⟩

/-- Counting. -/
theorem keeps_count {metric : Metric} {promise : Except Failure Unit → Nat → Prop}
    (value : ∀ m, n ≤ m → promise (.ok ()) (m + 1)) :
    ρ.Keeps i pledge promise (count metric) n :=
  fun m le _ _ _ => ⟨sparing m _ rfl, value m le⟩

end steps

/-! ## Transactions -/

/-- Carrying out a transaction. -/
theorem keeps_transact {w : Watch} {writes : List Write} {a : α}
    {promise : Except Failure (Option α) → Nat → Prop}
    (effect : ∀ m, n ≤ m → pledge m (.store (.exec w writes)))
    (committed : ∀ m, n ≤ m → ρ.Commits m i w writes → promise (.ok (some a)) (m + 1))
    (aborted : ∀ m, n ≤ m → promise (.ok none) m)
    (error : ∀ m, n ≤ m → ∀ e, promise (.error e) m) :
    ρ.Keeps i pledge promise (transact w writes a) n := by
  refine .bind (keeps_ask effect ?_ error)
  intro m le outcome hears
  cases outcome with
  | committed => exact committed m le (commits_of_hears hears)
  | aborted => exact aborted (m + 1) (by omega)

/-- What an attempt promises that may have to be made again. -/
def tried (promise : Except Failure α → Nat → Prop) : Except Failure (Option α) → Nat → Prop
  | .ok (some a), n => promise (.ok a) n
  | .ok none, _ => True
  | .error e, n => promise (.error e) n

/-- **Trying again**: what every attempt promises from now on, the last one does. -/
theorem keeps_tryUpTo {limit : Nat} {op : Operation} {attempt : Program Failure (Option α)}
    {promise : Except Failure α → Nat → Prop} (sparing : Sparing pledge)
    (each : ∀ m, n ≤ m → ρ.Keeps i pledge (tried promise) attempt m)
    (error : ∀ m, n ≤ m → ∀ e, promise (.error e) m) (attempts : Nat) :
    ρ.Keeps i pledge promise (tryUpTo limit op attempt attempts) n := by
  induction attempts generalizing n with
  | zero => exact error n (Nat.le_refl n) _
  | succ attempts ih =>
    refine .bind (((each n (Nat.le_refl n)).remember).mono (fun _ _ => id) ?_)
    rintro (e | _ | a) m ⟨outcome, le, -⟩
    · exact outcome
    · refine .bind (keeps_count sparing ?_)
      intro m' le'
      exact ih (fun k low => each k (by omega)) (fun k low => error k (by omega))
    · exact outcome

/-- Trying as often as the policy allows. -/
theorem keeps_retrying {policy : Policy} {op : Operation} {attempt : Program Failure (Option α)}
    {promise : Except Failure α → Nat → Prop} (sparing : Sparing pledge)
    (each : ∀ m, n ≤ m → ρ.Keeps i pledge (tried promise) attempt m)
    (error : ∀ m, n ≤ m → ∀ e, promise (.error e) m) :
    ρ.Keeps i pledge promise (retrying policy op attempt) n :=
  keeps_tryUpTo sparing each error _

end Run
end Holdfast.Reservation
