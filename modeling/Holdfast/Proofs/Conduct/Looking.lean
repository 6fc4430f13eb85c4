import Holdfast.Proofs.Interleaving.Hearing
import Holdfast.Proofs.Interleaving.Steps
import Holdfast.Reservation.Availability

/-!
# Operations that only look

The status of a slot, the listing of holds and the snapshot of a day leave the store and the
catalogue as they are and announce nothing, whatever they are told.
-/

namespace Holdfast.Reservation

namespace Program

variable {ε α : Type} {p : Program ε α}

/-- Every effect of the program leaves the store and the catalogue as they are. -/
def Spares (p : Program ε α) : Prop := p.Only (Effect.spares · = true)

/-- Nobody notices any effect of the program. -/
def Looks (p : Program ε α) : Prop := p.Only (Effect.looks · = true)

/-- A program that nobody notices leaves the store and the catalogue as they are. -/
theorem Looks.spares (h : p.Looks) : p.Spares := Only.mono h fun _ => Effect.spares_of_looks

end Program

open Program

/-- Asking the store without a write. -/
theorem looks_ask {r : Store.Request} (h : (Effect.store r).looks = true) : (ask r).Looks :=
  ⟨h, fun reply => .orFail _ reply⟩

/-- Reading the hold on a slot. -/
theorem looks_readHold (slot : SlotId) : (readHold slot).Looks := by
  refine (looks_ask rfl).bind ?_
  intro text
  cases text with
  | none => exact trivial
  | some text => exact .orFail _ _

/-- Reading an index. -/
theorem looks_readIndex (key : String) : (readIndex key).Looks := by
  refine (looks_ask rfl).bind ?_
  intro text
  cases text with
  | none => exact trivial
  | some text => exact .orFail _ _

/-- Looking for the mark of a booking. -/
theorem looks_isFenced (slot : SlotId) : (isFenced slot).Looks := (looks_ask rfl).bind fun _ => trivial

/-- Finding a slot. -/
theorem looks_find (slot : SlotId) : (find slot).Looks := by
  have lookup : (lookup slot).Looks := ⟨rfl, fun reply => .orFail _ reply⟩
  refine lookup.bind ?_
  intro found
  cases found <;> exact trivial

/-- Counting. -/
theorem looks_count (m : Metric) : (count m).Looks := ⟨rfl, fun _ => trivial⟩

/-- The status of a slot with a record. -/
theorem looks_statusOf (r : SlotRecord) : (statusOf r).Looks := by
  unfold statusOf
  split
  · exact trivial
  · refine (looks_readHold r.id).bind ?_
    intro hold
    cases hold with
    | none => exact trivial
    | some hold =>
      refine (looks_ask rfl).bind ?_
      intro left
      cases left <;> exact trivial

/-- The status of a slot. -/
theorem looks_status (slot : SlotId) : (status slot).Looks := by
  exact (looks_find slot).bind looks_statusOf

/-- The rows of a page. -/
theorem looks_rowsOf (entries : List (String × String)) : (rowsOf entries).Looks := by
  induction entries with
  | nil => exact trivial
  | cons entry rest ih =>
    obtain ⟨key, text⟩ := entry
    unfold rowsOf
    cases HoldRecord.stored key text with
    | error e => exact (looks_count _).bind fun _ => ih
    | ok hold =>
      refine (looks_ask rfl).bind ?_
      intro left
      cases left with
      | none => exact ih
      | some ttl => exact ih.bind fun _ => trivial

/-- The rows of all pages. -/
theorem looks_rowsFrom (cursor : Option String) (pages : Nat) :
    (rowsFrom cursor pages).Looks := by
  induction pages generalizing cursor with
  | zero => exact trivial
  | succ pages ih =>
    refine (looks_ask rfl).bind fun page => (looks_rowsOf page.entries).bind fun rows => ?_
    split
    · exact trivial
    · rename_i next _
      exact (ih (some next)).bind fun _ => trivial

/-- The listing of all holds. -/
theorem looks_listHolds : listHolds.Looks := (looks_rowsFrom none maxPages).bind fun _ => trivial

/-- The statuses of some slots. -/
theorem looks_addSlots (s : DaySnapshot) (slots : List SlotRecord) :
    (addSlots s slots).Looks := by
  induction slots generalizing s with
  | nil => exact trivial
  | cons r rest ih => exact (looks_statusOf r).bind fun status => ih (addStatus s r.id status)

/-- The snapshot of a day. -/
theorem looks_snapshot (day : Day) : (snapshot day).Looks := by
  have slots : ((perform (.slotsOn day)).bind (orFail Failure.ofCatalogue)).Looks :=
    ⟨rfl, fun reply => .orFail _ reply⟩
  exact slots.bind (looks_addSlots { day })

namespace Run

variable {ρ : Run} {i n : Nat} {ε α : Type} {pledge : Nat → Effect → Prop} {p : Program ε α}

/-- A program that nobody notices may do what it does. -/
theorem keeps_of_looks (sparing : Sparing pledge) {promise : Except ε α → Nat → Prop}
    (value : ∀ r m, n ≤ m → promise r m) (h : p.Looks) : ρ.Keeps i pledge promise p n := by
  induction p generalizing n with
  | done a => exact value _ n (Nat.le_refl n)
  | fail e => exact value _ n (Nat.le_refl n)
  | ask e next ih =>
    intro m le quiet reply hears
    exact ⟨sparing m e h.1, ih reply (fun r m' le' => value r m' (by omega)) (h.2 reply)⟩

end Run
end Holdfast.Reservation
