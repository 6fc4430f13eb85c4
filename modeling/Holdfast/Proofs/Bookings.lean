import Holdfast.Catalogue

/-!
# Bookings in the catalogue

A booking succeeds exactly for a known slot that is not booked (`book_eq_ok_iff`), and afterwards
the slot is booked (`get?_book`). No booking takes another one back (`booked_of_book`), and it does
not matter which of two comes first (`book_comm`).
-/

namespace Holdfast.Catalogue

variable {c : Catalogue} {slot slot' : SlotId} {r : SlotRecord}

/-- A booking succeeds exactly for a known slot that is not booked. -/
theorem book_eq_ok_iff :
    (c.book slot).1 = .ok () ↔ ∃ r, c.get? slot = some r ∧ r.booked = false := by
  unfold book
  cases known : c.get? slot with
  | none => simp
  | some r => cases booked : r.booked <;> simp [booked]

/-- After a booking the slot is booked. -/
theorem get?_book (h : (c.book slot).1 = .ok ()) :
    ∃ r, (c.book slot).2.get? slot = some r ∧ r.booked = true := by
  obtain ⟨r, known, free⟩ := book_eq_ok_iff.1 h
  have isSlot : r.id = slot := c.keyed slot r known
  refine ⟨{ r with booked := true }, ?_, rfl⟩
  simp only [book, known, free, Bool.false_eq_true, if_false]
  rw [← isSlot]
  exact c.get?_insert_self { r with booked := true }

/-- A slot stays booked whatever is booked. -/
theorem booked_of_book (known : c.get? slot = some r) (booked : r.booked = true) (slot' : SlotId) :
    (c.book slot').2.get? slot = some r := by
  unfold book
  cases known' : c.get? slot' with
  | none => exact known
  | some r' =>
    cases free : r'.booked with
    | true => simpa [free] using known
    | false =>
      have other : slot ≠ r'.id := by
        rintro rfl
        rw [c.keyed slot' r' known'] at known
        rw [known] at known'
        obtain rfl := Option.some.inj known'
        rw [booked] at free
        cases free
      simp only [free, Bool.false_eq_true, if_false]
      rw [get?_insert_ne c (r := { r' with booked := true }) other]
      exact known

/-- What is known after an attempt to book a slot. -/
theorem get?_book_eq (c : Catalogue) (slot slot' : SlotId) : (c.book slot).2.get? slot' =
    if slot' = slot then (c.get? slot).map ({ · with booked := true }) else c.get? slot' := by
  unfold book
  cases known : c.get? slot with
  | none =>
    by_cases same : slot' = slot
    · simp [same, known]
    · simp [same]
  | some r =>
    obtain rfl : r.id = slot := c.keyed slot r known
    obtain ⟨slot, day, booked⟩ := r
    cases booked with
    | true =>
      by_cases same : slot' = slot
      · simpa [same] using known
      · simp [same]
    | false =>
      by_cases same : slot' = slot
      · subst same
        simpa using c.get?_insert_self ⟨slot', day, true⟩
      · simpa [same] using c.get?_insert_ne (r := ⟨slot, day, true⟩) same

/-- Catalogues are the same that know the same. -/
theorem ext_known {c' : Catalogue} (same : ∀ slot, c.get? slot = c'.get? slot) : c = c' := by
  obtain ⟨slots, keyed⟩ := c
  obtain ⟨slots', keyed'⟩ := c'
  obtain rfl : slots = slots' := SortedMap.ext_get? same
  rfl

/-- **Two bookings commute.** -/
theorem book_comm (c : Catalogue) (slot slot' : SlotId) :
    ((c.book slot).2.book slot').2 = ((c.book slot').2.book slot).2 := by
  apply ext_known
  intro other
  simp only [get?_book_eq]
  by_cases same : slot = slot'
  · simp [same]
  · have ne : ¬ slot' = slot := Ne.symm same
    by_cases first : other = slot
    · simp [first, same]
    · by_cases second : other = slot' <;> simp [first, second, ne]

end Holdfast.Catalogue
