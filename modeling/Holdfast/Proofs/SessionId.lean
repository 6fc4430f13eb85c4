import Holdfast.SessionId
import Mathlib.Algebra.Group.Nat.Defs

/-!
# Reading written identifiers

An identifier is read back from its digits: 26 digits of base 32 are more than enough for 128 bits.
-/

namespace Holdfast.SessionId

/-- There are as many digits as asked for. -/
@[simp] theorem length_digits (k n : Nat) : (digits k n).length = k := by
  induction k generalizing n with
  | zero => rfl
  | succ k ih => rw [digits, List.length_append, ih, List.length_singleton]

/-- The last digits of a number write its remainder. -/
theorem mapM_digits (k n : Nat) : ∃ ds, (digits k n).mapM digitValue? = some ds ∧
    ds.foldl (fun n d => 32 * n + d) 0 = n % 32 ^ k := by
  induction k generalizing n with
  | zero => exact ⟨[], rfl, by simp [Nat.mod_one]⟩
  | succ k ih =>
    obtain ⟨ds, read, value⟩ := ih (n / 32)
    have last := digitValue?_digit (n % 32) (Nat.mod_lt n (by decide))
    refine ⟨ds ++ [n % 32], ?_, ?_⟩
    · rw [digits, List.mapM_append, read]
      simp [last]
    · rw [List.foldl_append, value, Nat.pow_succ, Nat.mul_comm (32 ^ k), Nat.mod_mul]
      simp only [List.foldl_cons, List.foldl_nil]
      omega

/-- **Reading undoes writing.** -/
theorem read?_text (id : SessionId) : read? (text id) = some id := by
  obtain ⟨ds, read, value⟩ := mapM_digits length id.toNat
  have small : id.toNat < 32 ^ length := Nat.lt_trans id.isLt (by decide)
  rw [Nat.mod_eq_of_lt small] at value
  have whole : (guard ((digits length id.toNat).length = length) : Option Unit) = some () :=
    if_pos (length_digits length id.toNat)
  rw [read?, text, String.toList_ofList, readChars?, whole]
  simp only [read, value, Option.bind_eq_bind, Option.bind_some,
    Option.pure_def, BitVec.ofNat_toNat, BitVec.setWidth_eq]

end Holdfast.SessionId
