import Holdfast.Day
import Holdfast.Proofs.Text.Digits
import Mathlib.Algebra.Group.Nat.Defs

/-!
# Reading written days

A day is read back from its text: the numbers are padded with zeros, which a reader does not mind,
and a hyphen or the end follows each of them. A year of more than four digits, or before the year
zero, has a sign, and then its digits may go on as long as they like.
-/

namespace Holdfast

namespace Text.Decimal

/-- A number below a power of ten has at most as many digits. -/
theorem length_digits_le {n : Nat} (k : Nat) (h : n < 10 ^ (k + 1)) :
    (digits n).length ≤ k + 1 := by
  induction k generalizing n with
  | zero =>
    rw [digits, if_pos (by simpa using h)]
    exact Nat.le_refl _
  | succ k ih =>
    rw [digits]
    split
    · simp
    · rw [List.length_append, List.length_singleton]
      have small : n / 10 < 10 ^ (k + 1) :=
        Nat.div_lt_of_lt_mul (by rw [Nat.mul_comm, ← Nat.pow_succ]; exact h)
      have := ih small
      omega

end Text.Decimal

namespace Day

open Text

/-- Is the character a digit? -/
def isDigit (c : Char) : Bool := (Decimal.digitValue? c).isSome

/-- A number with zeros in front is made of digits. -/
theorem isDigit_of_mem_padded {width n : Nat} {c : Char} (h : c ∈ padded width n) :
    isDigit c = true := by
  rcases List.mem_append.1 h with h | h
  · rw [(List.mem_replicate.1 h).2]
    rfl
  · obtain ⟨d, small, rfl⟩ := Decimal.mem_digits h
    rw [isDigit, Decimal.digitValue?_digitChar d small]
    rfl

/-- A number that fits is as long as its width. -/
theorem length_padded {width n : Nat} (fits : n < 10 ^ (width + 1)) :
    (padded (width + 1) n).length = width + 1 := by
  have := Decimal.length_digits_le width fits
  rw [padded, List.length_append, List.length_replicate]
  omega

/-- A number with zeros in front reads as the number. -/
theorem read?_padded (width n : Nat) : Decimal.read? (padded width n) = some n :=
  Decimal.read?_zeros _ n

/-- No digit comes first. -/
def Stops (tail : List Char) : Prop := ∀ c rest, tail = c :: rest → isDigit c = false

/-- The number in front of a text, if at most so many digits are taken and no more follow. -/
theorem number?_padded {limit width n : Nat} {tail : List Char}
    (le : (padded width n).length ≤ limit) (stops : Stops tail) :
    number? limit (padded width n ++ tail) = some (n, tail) := by
  have taken : ((padded width n ++ tail).take limit).takeWhile isDigit = padded width n := by
    rw [List.take_append, List.take_of_length_le le,
      List.takeWhile_append_of_pos fun c mem => isDigit_of_mem_padded mem]
    have none : (tail.take (limit - (padded width n).length)).takeWhile isDigit = [] := by
      cases tail with
      | nil => simp
      | cons c rest =>
        cases limit - (padded width n).length with
        | zero => rfl
        | succ k => simp [stops c rest rfl]
    rw [none, List.append_nil]
  change ((Decimal.read? (((padded width n ++ tail).take limit).takeWhile isDigit)).map fun m =>
    (m, (padded width n ++ tail).drop
      (((padded width n ++ tail).take limit).takeWhile isDigit).length)) = some (n, tail)
  rw [taken, read?_padded, Option.map_some, List.drop_left]

/-- White space is dropped before what is none. -/
theorem skipBlank_cons {c : Char} (h : isBlank c = false) (cs : List Char) :
    skipBlank (c :: cs) = c :: cs := by
  rw [skipBlank, List.dropWhile_cons_of_neg (by simp [h])]

/-- A digit is no white space and no sign. -/
theorem plain_of_isDigit {c : Char} (h : isDigit c = true) :
    isBlank c = false ∧ c ≠ '-' ∧ c ≠ '+' := by
  have range : '0' ≤ c ∧ c ≤ '9' := by
    rw [isDigit, Decimal.digitValue?] at h
    split at h
    · assumption
    · cases h
  have low : 48 ≤ c.toNat := range.1
  have high : c.toNat ≤ 57 := range.2
  refine ⟨?_, ?_, ?_⟩
  · simp only [isBlank, Bool.or_eq_false_iff, Bool.and_eq_false_iff, decide_eq_false_iff_not,
      beq_eq_false_iff_ne]
    omega
  · rintro rfl
    exact absurd low (by decide)
  · rintro rfl
    exact absurd low (by decide)

/-- The first character of a number that is padded. -/
theorem padded_cons (width n : Nat) : ∃ c cs, padded width n = c :: cs ∧ isDigit c = true := by
  cases text : padded width n with
  | nil => exact absurd (List.append_eq_nil_iff.1 text).2 (Decimal.digits_ne_nil n)
  | cons c cs => exact ⟨c, cs, rfl, isDigit_of_mem_padded (text ▸ List.mem_cons_self)⟩

/-- No white space is dropped before a number. -/
theorem skipBlank_padded (width n : Nat) (tail : List Char) :
    skipBlank (padded width n ++ tail) = padded width n ++ tail := by
  obtain ⟨c, cs, text, digit⟩ := padded_cons width n
  rw [text, List.cons_append, skipBlank_cons (plain_of_isDigit digit).1]

/-- A hyphen ends a number. -/
theorem stops_hyphen (rest : List Char) : Stops ('-' :: rest) := by
  rintro c tail same
  obtain ⟨rfl, -⟩ := List.cons.inj same
  rfl

/-- A month or a day of the month is read back. -/
theorem number?_two {n : Nat} (small : n < 100) {tail : List Char} (stops : Stops tail) :
    number? 2 (skipBlank (padded 2 n ++ tail)) = some (n, tail) := by
  rw [skipBlank_padded]
  exact number?_padded (Nat.le_of_eq (length_padded small)) stops

/-- A year is read back. -/
theorem year?_yearText (y : Int) (rest : List Char) :
    year? (yearText y ++ '-' :: rest) = some (y, '-' :: rest) := by
  have signed : ∀ n, number? (padded 4 n ++ '-' :: rest).length (padded 4 n ++ '-' :: rest) =
      some (n, '-' :: rest) := by
    intro n
    refine number?_padded ?_ (stops_hyphen rest)
    rw [List.length_append]
    omega
  unfold yearText
  split
  · rename_i range
    obtain ⟨c, cs, text, digit⟩ := padded_cons 4 y.toNat
    have read : number? 4 (padded 4 y.toNat ++ '-' :: rest) = some (y.toNat, '-' :: rest) :=
      number?_padded (Nat.le_of_eq (length_padded (by omega))) (stops_hyphen rest)
    unfold year?
    rw [skipBlank_padded]
    split
    · rename_i minus
      rw [text, List.cons_append] at minus
      exact absurd (List.cons.inj minus).1 (plain_of_isDigit digit).2.1
    · rename_i plus
      rw [text, List.cons_append] at plus
      exact absurd (List.cons.inj plus).1 (plain_of_isDigit digit).2.2
    · rw [read, Option.map_some]
      simp only [Int.toNat_of_nonneg range.1]
  · split
    · rename_i negative
      rw [List.cons_append]
      change (number? _ (padded 4 y.natAbs ++ '-' :: rest)).map _ = _
      rw [signed, Option.map_some]
      simp only [Option.some.injEq, Prod.mk.injEq, and_true]
      omega
    · rename_i positive
      rw [List.cons_append]
      change (number? _ (padded 4 y.natAbs ++ '-' :: rest)).map _ = _
      rw [signed, Option.map_some]
      simp only [Option.some.injEq, Prod.mk.injEq, and_true]
      omega

/-- **Reading undoes writing.** -/
theorem read?_text (d : Day) : read? (text d) = some d := by
  obtain ⟨low, high, bound⟩ := d.dayOfMonth_le
  have month := number?_two (n := d.month) (by omega) (stops_hyphen (padded 2 d.dayOfMonth))
  have day : number? 2 (skipBlank (padded 2 d.dayOfMonth ++ [])) = some (d.dayOfMonth, []) :=
    number?_two (by omega) (by intro c rest h; cases h)
  rw [List.append_nil] at day
  have written : d.chars =
      yearText d.year ++ '-' :: (padded 2 d.month ++ '-' :: padded 2 d.dayOfMonth) := by
    simp [chars]
  have isDate : of? d.year d.month d.dayOfMonth = some d := dif_pos d.isDate
  rw [read?, text, String.toList_ofList, readChars?, written, year?_yearText]
  change (number? 2 (skipBlank (padded 2 d.month ++ '-' :: padded 2 d.dayOfMonth))).bind _ = some d
  rw [month]
  change (number? 2 (skipBlank (padded 2 d.dayOfMonth))).bind _ = some d
  rw [day]
  exact isDate

end Day
end Holdfast
