import Holdfast.Text.Decimal

/-!
# What decimal text looks like

The digits of a number are ASCII digits (`mem_digits`), and zero stands in front only when it stands
alone (`digits_head`). What is read as a number are its digits with any zeros in front
(`read?_eq_some_iff`), and a reader with a bound takes a plus sign too, and no number from the bound on
(`readBelow?_eq_some_iff`).
-/

namespace Holdfast.Text.Decimal

/-- Every character of a decimal text is the digit of a number below ten. -/
theorem mem_digits {n : Nat} {c : Char} (h : c ∈ digits n) : ∃ d < 10, c = digitChar d := by
  induction n using Nat.strongRecOn with
  | ind n ih =>
    rw [digits] at h
    split at h
    · rename_i small
      exact ⟨n, small, List.mem_singleton.1 h⟩
    · rename_i large
      rcases List.mem_append.1 h with h | h
      · exact ih (n / 10) (by omega) h
      · exact ⟨n % 10, by omega, List.mem_singleton.1 h⟩

/-- A decimal text begins with the digit of a positive number, or it is the text of zero. -/
theorem digits_head (n : Nat) :
    n = 0 ∨ ∃ d rest, 0 < d ∧ d < 10 ∧ digits n = digitChar d :: rest := by
  induction n using Nat.strongRecOn with
  | ind n ih =>
    by_cases zero : n = 0
    · exact .inl zero
    · right
      rw [digits]
      split
      · rename_i small
        exact ⟨n, [], by omega, small, rfl⟩
      · rename_i large
        rcases ih (n / 10) (by omega) with h | ⟨d, rest, positive, small, h⟩
        · omega
        · exact ⟨d, rest ++ [digitChar (n % 10)], positive, small, by rw [h]; rfl⟩

/-- The digits of zero. -/
theorem digits_zero : digits 0 = ['0'] := by
  rw [digits]
  rfl

/-- The digit of a number below ten is that number's and no sign. -/
theorem digitChar_ne_plus : ∀ d < 10, digitChar d ≠ '+' := by decide

/-- Zeros in front of a number do not change it. -/
theorem read?_zeros (k n : Nat) : read? (List.replicate k '0' ++ digits n) = some n := by
  have zeros : (List.replicate k '0' ++ digits n).foldlM pushDigit 0 = some n := by
    induction k with
    | zero => exact foldlM_digits n
    | succ k ih =>
      rw [List.replicate_succ, List.cons_append, List.foldlM_cons]
      exact ih
  cases text : List.replicate k '0' ++ digits n with
  | nil => exact absurd (List.append_eq_nil_iff.1 text).2 (digits_ne_nil n)
  | cons c cs => rw [read?, ← text]; exact zeros

/-- The characters that are digits. -/
theorem digitValue?_eq_some_iff {c : Char} {d : Nat} :
    digitValue? c = some d ↔ d < 10 ∧ c = digitChar d := by
  constructor
  · intro value
    unfold digitValue? at value
    split at value
    · rename_i digit
      have low : 48 ≤ c.toNat := digit.1
      have high : c.toNat ≤ 57 := digit.2
      obtain rfl := Option.some.inj value
      refine ⟨by omega, ?_⟩
      rw [digitChar, Nat.add_sub_cancel' low, Char.ofNat_toNat]
    · cases value
  · rintro ⟨small, rfl⟩
    exact digitValue?_digitChar d small

/-- One more digit is the last one of the number that it makes. -/
theorem pushDigit_eq_some_iff {n m : Nat} {c : Char} :
    pushDigit m c = some n ↔ n / 10 = m ∧ c = digitChar (n % 10) := by
  rw [pushDigit, Option.map_eq_some_iff]
  constructor
  · rintro ⟨d, value, rfl⟩
    obtain ⟨small, rfl⟩ := digitValue?_eq_some_iff.1 value
    refine ⟨by omega, ?_⟩
    rw [Nat.mul_add_mod, Nat.mod_eq_of_lt small]
  · rintro ⟨rfl, rfl⟩
    exact ⟨n % 10, digitValue?_digitChar _ (Nat.mod_lt n (by decide)), Nat.div_add_mod n 10⟩

/-- A text that was read as a number has its digits, with zeros in front. -/
theorem exists_zeros_of_foldlM {cs : List Char} {n : Nat} (some_ : cs ≠ [])
    (read : cs.foldlM pushDigit 0 = some n) : ∃ zeros, cs = List.replicate zeros '0' ++ digits n := by
  -- the number is read from its last digit, so the induction takes that one away
  induction k : cs.length generalizing cs n with
  | zero => exact absurd (List.eq_nil_of_length_eq_zero k) some_
  | succ k' ih =>
    obtain ⟨front, c, rfl⟩ := (List.eq_nil_or_concat cs).resolve_left some_
    rw [List.concat_eq_append, List.foldlM_append] at read
    obtain ⟨m, start, push⟩ := Option.bind_eq_some_iff.1 read
    simp only [List.foldlM_cons, List.foldlM_nil, bind_pure] at push
    obtain ⟨rfl, rfl⟩ := pushDigit_eq_some_iff.1 push
    rw [List.length_concat, Nat.add_right_cancel_iff] at k
    rw [List.concat_eq_append, digits]
    by_cases alone : front = []
    · subst alone
      have small : n / 10 = 0 := (Option.some.inj start).symm
      exact ⟨0, by rw [if_pos (by omega), Nat.mod_eq_of_lt (by omega)]; rfl⟩
    · obtain ⟨zeros, rfl⟩ := ih alone start k
      split
      · rename_i small
        rw [Nat.div_eq_of_lt small, Nat.mod_eq_of_lt small, digits_zero]
        exact ⟨zeros + 1, by rw [List.replicate_succ']⟩
      · exact ⟨zeros, List.append_assoc ..⟩

/-- The texts of a number are its digits with zeros in front. -/
theorem read?_eq_some_iff {cs : List Char} {n : Nat} :
    read? cs = some n ↔ ∃ zeros, cs = List.replicate zeros '0' ++ digits n := by
  constructor
  · intro read
    cases cs with
    | nil => cases read
    | cons c cs => exact exists_zeros_of_foldlM (List.cons_ne_nil c cs) read
  · rintro ⟨zeros, rfl⟩
    exact read?_zeros zeros n

/-- What a reader with a bound takes for a number: its digits, with zeros and a plus sign in front or
without. -/
theorem readBelow?_eq_some_iff {cs : List Char} {bound n : Nat} :
    readBelow? bound cs = some n ↔ n < bound ∧ ∃ sign zeros, (sign = [] ∨ sign = ['+']) ∧
      cs = sign ++ List.replicate zeros '0' ++ digits n := by
  have unsigned : ∀ zeros rest, List.replicate zeros '0' ++ digits n ≠ '+' :: rest := by
    intro zeros rest e
    rcases List.mem_append.1 (e ▸ List.mem_cons_self : '+' ∈ List.replicate zeros '0' ++ digits n) with h | h
    · cases (List.mem_replicate.1 h).2
    · obtain ⟨d, small, plus⟩ := mem_digits h
      exact digitChar_ne_plus d small plus.symm
  have read : ∀ ds, (read? ds).filter (· < bound) = some n ↔
      n < bound ∧ ∃ zeros, ds = List.replicate zeros '0' ++ digits n := by
    intro ds
    rw [Option.filter_eq_some_iff, read?_eq_some_iff, decide_eq_true_eq, and_comm]
  unfold readBelow?
  split
  · rename_i rest
    rw [read]
    refine and_congr_right fun _ => ⟨?_, ?_⟩
    · rintro ⟨zeros, rfl⟩
      exact ⟨['+'], zeros, .inr rfl, rfl⟩
    · rintro ⟨sign, zeros, rfl | rfl, same⟩
      · exact absurd same.symm (unsigned zeros rest)
      · exact ⟨zeros, List.tail_eq_of_cons_eq same⟩
  · rename_i plain
    refine (read cs).trans (and_congr_right fun _ => ⟨?_, ?_⟩)
    · rintro ⟨zeros, rfl⟩
      exact ⟨[], zeros, .inl rfl, rfl⟩
    · rintro ⟨sign, zeros, rfl | rfl, same⟩
      · exact ⟨zeros, same⟩
      · exact absurd same (plain _)

/-- A reader with a bound gives a number below the bound back from its digits. -/
theorem readBelow?_digits {n bound : Nat} (h : n < bound) :
    readBelow? bound (digits n) = some n :=
  readBelow?_eq_some_iff.2 ⟨h, [], 0, .inl rfl, rfl⟩

end Holdfast.Text.Decimal
