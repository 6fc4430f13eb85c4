import Holdfast.Text.Blank

/-!
# What trimming leaves

Of a text with white space in front and behind, trimming leaves what stands between them, which
neither begins nor ends with white space (`Trims`). There is one such text for every text
(`trims_iff`).
-/

namespace Holdfast.Text

/-- **A text without the white space at its ends.** -/
def Trims (s t : String) : Prop :=
  ∃ front back, s.toList = front ++ t.toList ++ back ∧
    (∀ c ∈ front, isBlank c = true) ∧ (∀ c ∈ back, isBlank c = true) ∧
    (∀ c, t.toList.head? = some c → isBlank c = false) ∧
    ∀ c, t.toList.getLast? = some c → isBlank c = false

section skipBlank

variable {front rest : List Char}

/-- White space in front is skipped. -/
theorem skipBlank_append (blank : ∀ c ∈ front, isBlank c = true) (rest : List Char) :
    skipBlank (front ++ rest) = skipBlank rest := List.dropWhile_append_of_pos blank

/-- Nothing is left of white space. -/
theorem skipBlank_eq_nil (blank : ∀ c ∈ front, isBlank c = true) : skipBlank front = [] := by
  rw [← front.append_nil, skipBlank_append blank]
  rfl

/-- Nothing is skipped of what does not begin with white space. -/
theorem skipBlank_eq_self (first : ∀ c, rest.head? = some c → isBlank c = false) :
    skipBlank rest = rest := by
  cases rest with
  | nil => rfl
  | cons c rest => exact List.dropWhile_cons_of_neg (by simp [first c rfl])

/-- What is skipped is white space, and what is left does not begin with it. -/
theorem exists_skipped (cs : List Char) : ∃ front, cs = front ++ skipBlank cs ∧
    (∀ c ∈ front, isBlank c = true) ∧ ∀ c, (skipBlank cs).head? = some c → isBlank c = false := by
  refine ⟨cs.takeWhile isBlank, List.takeWhile_append_dropWhile.symm, ?_, ?_⟩
  · intro c mem
    exact List.all_eq_true.1 List.all_takeWhile c mem
  · intro c first
    have stops := List.head?_dropWhile_not isBlank cs
    rw [skipBlank] at first
    rw [first] at stops
    exact stops

end skipBlank

/-- **Trimming leaves the text without the white space at its ends**, and no other text is that. -/
theorem trims_iff {s t : String} : Trims s t ↔ t = trim s := by
  constructor
  · rintro ⟨front, back, split, inFront, behind, first, last⟩
    have trimmed : trimBlank s.toList = t.toList := by
      rw [split, trimBlank, List.append_assoc, skipBlank_append inFront]
      cases text : t.toList with
      | nil =>
        rw [List.nil_append, skipBlank_eq_nil behind]
        rfl
      | cons c rest =>
        have begins : skipBlank (c :: rest ++ back) = c :: rest ++ back :=
          skipBlank_eq_self fun c' same => first c' (text ▸ same)
        have ends : skipBlank (c :: rest).reverse = (c :: rest).reverse := by
          refine skipBlank_eq_self fun c' same => last c' ?_
          rwa [text, ← List.head?_reverse]
        have blank : ∀ c ∈ back.reverse, isBlank c = true :=
          fun c mem => behind c (List.mem_reverse.1 mem)
        rw [begins, List.reverse_append, skipBlank_append blank, ends, List.reverse_reverse]
    rw [trim, trimmed, String.ofList_toList]
  · rintro rfl
    obtain ⟨front, split, inFront, first⟩ := exists_skipped s.toList
    obtain ⟨back, split', behind, last⟩ := exists_skipped (skipBlank s.toList).reverse
    have middle : skipBlank s.toList = trimBlank s.toList ++ back.reverse := by
      rw [trimBlank, ← List.reverse_append, ← split', List.reverse_reverse]
    rw [trim]
    simp only [Trims, String.toList_ofList]
    refine ⟨front, back.reverse, ?_, inFront, fun c mem => behind c (List.mem_reverse.1 mem), ?_, ?_⟩
    · rw [List.append_assoc, ← middle]
      exact split
    · intro c same
      apply first c
      rw [middle, List.head?_append, same]
      rfl
    · intro c same
      apply last c
      rwa [trimBlank, List.getLast?_reverse] at same

end Holdfast.Text
