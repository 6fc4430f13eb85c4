import Holdfast.Proofs.Json.Shape
import Mathlib.Data.List.TakeWhile

/-!
# Tagged values

A tagged value is read in each of its shapes: tag first (`tagged?_tagged`), as an array of the two
(`tagged?_pair`), and content first (`tagged?_swapped`). In the last shape the content is kept until
its tag is known, so it must be legible and not too deep. Texts and numbers of 64 bits are legible
(`isFinite_digits`), and records of legible values are (`isLegible_record`).
-/

namespace Holdfast.Json

open Text

namespace Numeral

/-- A digit that leaves the significand within 64 bits is pushed. -/
theorem wholeDigit_digitChar {n d : Nat} (digit : d < 10) (fits : n * 10 + d < UInt64.size) :
    Scaled.wholeDigit { significand := n } (Decimal.digitChar d) =
      { significand := n * 10 + d } := by
  have value : ∀ d < 10, (Decimal.digitChar d).toNat - 0x30 = d := by decide
  have pushed : Scaled.push? { significand := n } d = some (n * 10 + d) :=
    if_neg (by simpa using fits)
  rw [Scaled.wholeDigit, value d digit, pushed]

/-- A number of 64 bits is pushed digit by digit, and no digit is dropped. -/
theorem foldl_wholeDigit {n : Nat} (h : n < UInt64.size) :
    (Decimal.digits n).foldl Scaled.wholeDigit {} = { significand := n } := by
  induction n using Nat.strongRecOn with
  | ind n ih =>
    rw [Decimal.digits]
    split
    · rename_i small
      have pushed := wholeDigit_digitChar (n := 0) small (by omega)
      rw [Nat.zero_mul, Nat.zero_add] at pushed
      exact pushed
    · have whole : n / 10 * 10 + n % 10 = n := by omega
      rw [List.foldl_append, ih (n / 10) (by omega) (by omega)]
      have pushed := wholeDigit_digitChar (n := n / 10) (d := n % 10) (by omega) (by omega)
      rw [whole] at pushed
      exact pushed

/-- Rounding to so many bits adds less than the number has. -/
theorem round53_le (n : Nat) : round53 n ≤ 3 * n := by
  rcases Nat.eq_zero_or_pos n with rfl | positive
  · decide
  · have unit : Nat.pow 2 (Nat.log2 n + 1 - 53) ≤ 2 * n := by
      have : Nat.pow 2 (Nat.log2 n + 1 - 53) ≤ 2 ^ (Nat.log2 n + 1) :=
        Nat.pow_le_pow_right (by decide) (by omega)
      have := Nat.log2_self_le (n := n) (by omega)
      omega
    have whole := Nat.div_mul_le_self n (Nat.pow 2 (Nat.log2 n + 1 - 53))
    simp only [round53]
    split
    · omega
    split
    · rw [Nat.add_mul, Nat.one_mul]
      omega
    · omega

/-- A number of 64 bits is finite. -/
theorem isFinite_digits {n : Nat} (h : n < UInt64.size) :
    isFinite (Decimal.digits n) = true := by
  have plain : ∀ c ∈ Decimal.digits n, c ≠ '-' ∧ c ≠ 'e' ∧ c ≠ 'E' ∧ c ≠ '.' := by
    intro c mem
    obtain ⟨d, small, rfl⟩ := Decimal.mem_digits mem
    exact (by decide : ∀ d < 10, Decimal.digitChar d ≠ '-' ∧ Decimal.digitChar d ≠ 'e' ∧
      Decimal.digitChar d ≠ 'E' ∧ Decimal.digitChar d ≠ '.') d small
  have body : (Decimal.digits n).dropWhile (· = '-') = Decimal.digits n := by
    rw [List.dropWhile_eq_self_iff]
    intro nonempty
    simpa using (plain _ (List.getElem_mem nonempty)).1
  have mantissa : (Decimal.digits n).takeWhile (fun c => c ≠ 'e' ∧ c ≠ 'E') =
      Decimal.digits n := by
    rw [List.takeWhile_eq_self_iff]
    intro c mem
    simpa using ⟨(plain c mem).2.1, (plain c mem).2.2.1⟩
  have point : (Decimal.digits n).takeWhile (· ≠ '.') = Decimal.digits n := by
    rw [List.takeWhile_eq_self_iff]
    intro c mem
    simpa using (plain c mem).2.2.2
  have none_behind : (Decimal.digits n).drop ((Decimal.digits n).length + 1) = [] :=
    List.drop_of_length_le (by omega)
  have small : round53 n * round53 (Nat.pow 10 0) < overflow := by
    have one : round53 (Nat.pow 10 0) = 1 := by decide
    have wide : 3 * UInt64.size < overflow := by decide +kernel
    have := round53_le n
    rw [one]
    omega
  have reached : Scaled.isFinite { significand := n } = true :=
    decide_eq_true (.inr (.inr ⟨show (0 : Int) ≤ 308 by decide, small⟩))
  simp only [isFinite, body, mantissa, point, none_behind, foldl_wholeDigit h]
  exact reached

end Numeral

/-! ## What may be kept -/

/-- A text is legible. -/
theorem isLegible_text (s : String) : (text s).isLegible = true := rfl

/-- A number of 64 bits is legible. -/
theorem isLegible_word (n : UInt64) : (word n).isLegible = true := by
  rw [word, natural, isLegible, Decimal.text, String.toList_ofList]
  exact Numeral.isFinite_digits n.toNat_lt

/-- A record of legible values is legible. -/
theorem isLegible_record {fields : List (String × Json)}
    (h : ∀ f ∈ fields, f.2.isLegible = true) : (record fields).isLegible = true := by
  rw [record, isLegible]
  induction fields with
  | nil => rfl
  | cons f rest ih =>
    rw [List.map_cons, isLegibleMembers, isLegibleMember, h f List.mem_cons_self,
      ih fun f mem => h f (List.mem_cons_of_mem _ mem)]
    rfl

/-- A record lies one deeper than what its fields say. -/
theorem depth_record_le {fields : List (String × Json)} {k : Nat}
    (h : ∀ f ∈ fields, f.2.depth ≤ k) : (record fields).depth ≤ k + 1 := by
  rw [record, depth, Nat.add_le_add_iff_right]
  induction fields with
  | nil => exact Nat.zero_le k
  | cons f rest ih =>
    rw [List.map_cons, depthMembers, depthMember]
    exact Nat.max_le.2 ⟨h f List.mem_cons_self, ih fun f mem => h f (List.mem_cons_of_mem _ mem)⟩

/-! ## The three shapes -/

/-- The tag first. -/
theorem tagged?_tagged (name : String) (content : Json) :
    (tagged name content).tagged? = some (name, content) :=
  rfl

/-- The array of the two. -/
theorem tagged?_pair (name : String) (content : Json) :
    (Json.array [text name, content]).tagged? = some (name, content) :=
  rfl

/-- The content first. -/
theorem tagged?_swapped (name : String) {content : Json} (legible : content.isLegible = true)
    (deep : content.depth + 1 ≤ maxDepth) :
    (record [("data", content), ("event", text name)]).tagged? = some (name, content) := by
  have kept : content.depth + 1 ≤ maxDepth ∧ content.isLegible = true := ⟨deep, legible⟩
  have read : (record [("data", content), ("event", text name)]).tagged? =
      (guard (content.depth + 1 ≤ maxDepth ∧ content.isLegible = true) : Option Unit).bind
        fun _ => some (name, content) := rfl
  have passes : (guard (content.depth + 1 ≤ maxDepth ∧ content.isLegible = true) : Option Unit) =
      some () := if_pos kept
  rw [read, passes]
  rfl

end Holdfast.Json
