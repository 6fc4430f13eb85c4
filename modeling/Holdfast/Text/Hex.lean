/-!
# Hexadecimal digits

Digits are read in either case and written in lower case.
-/

namespace Holdfast.Text.Hex

/-- The lower-case hexadecimal digit of a number below sixteen. -/
def digit (d : Nat) : Char := Char.ofNat (if d < 10 then 0x30 + d else 0x57 + d)

/-- A number in base sixteen, most significant digit first. -/
def digits (n : Nat) : List Char :=
  if n < 16 then [digit n] else digits (n / 16) ++ [digit (n % 16)]
termination_by n
decreasing_by omega

/-- The value of a hexadecimal digit of either case. -/
def value? (c : Char) : Option Nat :=
  if '0' ≤ c ∧ c ≤ '9' then some (c.toNat - 0x30)
  else if 'a' ≤ c ∧ c ≤ 'f' then some (c.toNat - 0x57)
  else if 'A' ≤ c ∧ c ≤ 'F' then some (c.toNat - 0x37)
  else none

/-- Octets written as pairs of hexadecimal digits; an odd digit at the end counts for nothing. -/
def octets? : List Char → Option (List UInt8)
  | a :: b :: rest => do
    let x ← value? a
    let y ← value? b
    let tail ← octets? rest
    return UInt8.ofNat (16 * x + y) :: tail
  | _ => some []

end Holdfast.Text.Hex
