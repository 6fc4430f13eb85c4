/-!
# Decimal text of natural numbers

`digits` writes a number without leading zeros, `read?` reads digits back, and `readBelow?` is the
reading used for configuration values, path parameters and index entries: an optional `+`, then
ASCII digits only, of a number below a bound.

`read?_digits` states that reading undoes writing, so two numbers have different texts.
-/

namespace Holdfast.Text.Decimal

/-- The ASCII digit of a number below ten. -/
def digitChar (d : Nat) : Char := Char.ofNat (0x30 + d)

/-- The value of an ASCII digit. -/
def digitValue? (c : Char) : Option Nat :=
  if '0' ≤ c ∧ c ≤ '9' then some (c.toNat - 0x30) else none

/-- A number in base ten, most significant digit first. -/
def digits (n : Nat) : List Char :=
  if n < 10 then [digitChar n] else digits (n / 10) ++ [digitChar (n % 10)]
termination_by n
decreasing_by omega

/-- `digits` as a string. -/
def text (n : Nat) : String := String.ofList (digits n)

/-- One more digit read after the number `acc`. -/
def pushDigit (acc : Nat) (c : Char) : Option Nat := (digitValue? c).map (10 * acc + ·)

/-- The number that a text of ASCII digits writes; leading zeros are allowed, an empty text is not. -/
def read? : List Char → Option Nat
  | [] => none
  | c :: cs => (c :: cs).foldlM pushDigit 0

/-- A number below `bound`, after an optional plus sign. -/
def readBelow? (bound : Nat) (cs : List Char) : Option Nat :=
  let digits := match cs with
    | '+' :: rest => rest
    | cs => cs
  (read? digits).filter (· < bound)

/-! ## Reading undoes writing -/

theorem digitValue?_digitChar : ∀ d < 10, digitValue? (digitChar d) = some d := by decide

theorem digits_ne_nil (n : Nat) : digits n ≠ [] := by
  rw [digits]; split <;> simp

theorem foldlM_digits (n : Nat) : (digits n).foldlM pushDigit 0 = some n := by
  induction n using Nat.strongRecOn with
  | ind n ih =>
    rw [digits]
    split
    · rename_i h
      simp [pushDigit, digitValue?_digitChar n h]
    · rename_i h
      have hd := digitValue?_digitChar (n % 10) (by omega)
      simp only [List.foldlM_append, ih (n / 10) (by omega), Option.bind_eq_bind,
        Option.bind_some, List.foldlM_cons, List.foldlM_nil, pushDigit, hd, Option.map_some]
      simp only [Option.pure_def, Option.some.injEq]
      omega

theorem read?_digits (n : Nat) : read? (digits n) = some n := by
  have h := foldlM_digits n
  cases hd : digits n with
  | nil => exact absurd hd (digits_ne_nil n)
  | cons c cs => rw [read?, ← hd]; exact h

end Holdfast.Text.Decimal
