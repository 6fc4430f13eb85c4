/-!
# Sets of code points as ranges

A set of code points given by inclusive ranges in increasing order.
-/

namespace Holdfast.Text

/-- Does one of the ranges, which come in increasing order, hold `n`? -/
def inRanges : List (Nat × Nat) → Nat → Bool
  | [], _ => false
  | (low, high) :: rest, n => if n < low then false else n ≤ high || inRanges rest n

end Holdfast.Text
