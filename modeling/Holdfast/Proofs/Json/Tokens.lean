import Holdfast.Json.Printer
import Holdfast.Json.Token
import Holdfast.Proofs.Text.Digits

/-!
# Reading written tokens

Each piece of a written text is read back as the token that it writes: a numeral, if what comes next
ends a value (`next_numeral`), and a string literal, whatever characters it holds and also if it
spells no text (`next_literalOrGap`).
-/

namespace Holdfast.Json

open Text

/-- Characters without gaps between them. -/
def inks (cs : List Char) : List Glyph := cs.map some

@[simp] theorem inks_nil : inks [] = [] := rfl

@[simp] theorem inks_cons (c : Char) (cs : List Char) : inks (c :: cs) = some c :: inks cs := rfl

@[simp] theorem inks_append (cs ds : List Char) : inks (cs ++ ds) = inks cs ++ inks ds :=
  List.map_append

@[simp] theorem length_inks (cs : List Char) : (inks cs).length = cs.length := List.length_map _

/-- Nothing follows, or something that ends a value. -/
def Ends : List Glyph → Prop
  | [] => True
  | g :: _ => g = some ',' ∨ g = some ']' ∨ g = some '\x7d'

/-! ## Numerals -/

namespace Numeral

/-- The digits of a number are ASCII digits. -/
theorem isDigit_digitChar : ∀ d < 10, (Decimal.digitChar d).isDigit = true := by decide

/-- A run of digits is taken whole when no digit follows. -/
theorem takeDigits_append {ds : List Char} (digits : ∀ c ∈ ds, c.isDigit = true)
    {rest : List Glyph} (ends : takeDigits rest = ([], rest)) :
    takeDigits (inks ds ++ rest) = (ds, rest) := by
  induction ds with
  | nil => exact ends
  | cons c ds ih =>
    have tail := ih fun x mem => digits x (List.mem_cons_of_mem c mem)
    rw [inks_cons, List.cons_append, takeDigits, if_pos (digits c List.mem_cons_self), tail]

/-- What ends a value is no digit, and starts neither a fraction nor an exponent. -/
theorem ends_numeral {rest : List Glyph} (h : Ends rest) :
    takeDigits rest = ([], rest) ∧ fraction? rest = some ([], rest) ∧
      exponent? rest = some ([], rest) := by
  cases rest with
  | nil => exact ⟨rfl, rfl, rfl⟩
  | cons g rest => rcases h with rfl | rfl | rfl <;> exact ⟨rfl, rfl, rfl⟩

/-- A digit is no sign and no zero unless it is that of zero. -/
theorem digitChar_ne : ∀ d < 10,
    Decimal.digitChar d ≠ '-' ∧ (0 < d → Decimal.digitChar d ≠ '0') := by
  decide

/-- The digits of a number start with one of them. -/
theorem digits_cons (n : Nat) : ∃ d < 10, ∃ ds, Decimal.digits n = Decimal.digitChar d :: ds := by
  cases digits : Decimal.digits n with
  | nil => exact absurd digits (Decimal.digits_ne_nil n)
  | cons c ds =>
    obtain ⟨d, small, rfl⟩ :=
      Decimal.mem_digits (digits ▸ List.mem_cons_self : c ∈ Decimal.digits n)
    exact ⟨d, small, ds, rfl⟩

/-- The digits of a number are a numeral. -/
theorem numeral?_digits (n : Nat) {rest : List Glyph} (h : Ends rest) :
    numeral? (inks (Decimal.digits n) ++ rest) = some (Decimal.digits n, rest) := by
  obtain ⟨ends, fraction, exponent⟩ := ends_numeral h
  have digits : ∀ c ∈ Decimal.digits n, c.isDigit = true := by
    intro c mem
    obtain ⟨d, small, rfl⟩ := Decimal.mem_digits mem
    exact isDigit_digitChar d small
  have taken := takeDigits_append digits ends
  have unsigned : sign (inks (Decimal.digits n) ++ rest) =
      ([], inks (Decimal.digits n) ++ rest) := by
    obtain ⟨d, small, ds, digits⟩ := digits_cons n
    rw [digits]
    unfold sign
    split
    · rename_i tail minus
      exact absurd (Option.some.inj (List.cons.inj minus).1) (digitChar_ne d small).1
    · rfl
  have whole : whole? (inks (Decimal.digits n) ++ rest) = some (Decimal.digits n, rest) := by
    unfold whole?
    rw [taken]
    split
    · rename_i none
      exact absurd (Prod.mk.inj none).1 (Decimal.digits_ne_nil n)
    · rename_i zero
      have digits := (Prod.mk.inj zero).1
      rcases Decimal.digits_head n with rfl | ⟨d, ds, positive, small, digits'⟩
      · rw [Decimal.digits_zero] at digits
        cases digits
      · rw [digits'] at digits
        exact absurd (List.cons.inj digits).1 ((digitChar_ne d small).2 positive)
    · rename_i same
      rw [same]
  rw [numeral?, unsigned]
  simp [whole, fraction, exponent]

/-! What ends a value is left over by every reader of a part of a numeral, whatever stands in front of
it. -/

section

variable {rest : List Glyph} (h : Ends rest)
include h

/-- Digits end where a value ends. -/
theorem takeDigits_ends (gs : List Glyph) :
    takeDigits (gs ++ rest) = ((takeDigits gs).1, (takeDigits gs).2 ++ rest) := by
  induction gs with
  | nil => exact (ends_numeral h).1
  | cons g gs ih =>
    cases g with
    | none => rfl
    | some c =>
      rw [List.cons_append, takeDigits, takeDigits]
      split
      · rw [ih]
      · rfl

/-- What ends a value is no minus sign. -/
theorem sign_ends (gs : List Glyph) :
    sign (gs ++ rest) = ((sign gs).1, (sign gs).2 ++ rest) := by
  cases gs with
  | nil =>
    cases rest with
    | nil => rfl
    | cons g rest => rcases h with rfl | rfl | rfl <;> rfl
  | cons g gs =>
    unfold sign
    split <;> simp_all

/-- The digits before the point end where a value ends. -/
theorem whole?_ends (gs : List Glyph) :
    whole? (gs ++ rest) = (whole? gs).map fun p => (p.1, p.2 ++ rest) := by
  unfold whole?
  rw [takeDigits_ends h]
  rcases takeDigits gs with ⟨_ | ⟨c, _ | ⟨d, ds⟩⟩, tail⟩
  all_goals simp
  all_goals split <;> simp_all

/-- A fraction ends where a value ends. -/
theorem fraction?_ends (gs : List Glyph) :
    fraction? (gs ++ rest) = (fraction? gs).map fun p => (p.1, p.2 ++ rest) := by
  cases gs with
  | nil => exact (ends_numeral h).2.1
  | cons g gs =>
    by_cases point : g = some '.'
    · subst point
      rw [List.cons_append, fraction?, fraction?, takeDigits_ends h]
      rcases takeDigits gs with ⟨_ | ⟨d, ds⟩, tail⟩ <;> rfl
    · rw [List.cons_append, fraction?, fraction?] <;> simp [point]

end

/-- The optional sign of an exponent. -/
def eitherSign (gs : List Glyph) : List Char × List Glyph :=
  match gs with
  | some '+' :: tail => (['+'], tail)
  | some '-' :: tail => (['-'], tail)
  | _ => ([], gs)

/-- An exponent is its mark, its sign and its digits. -/
theorem exponent?_mark {c : Char} (mark : c = 'e' ∨ c = 'E') (gs : List Glyph) :
    exponent? (some c :: gs) = match takeDigits (eitherSign gs).2 with
      | ([], _) => none
      | (ds, tail) => some (c :: (eitherSign gs).1 ++ ds, tail) :=
  if_pos mark

/-- Without a mark there is no exponent. -/
theorem exponent?_plain {c : Char} (plain : ¬ (c = 'e' ∨ c = 'E')) (gs : List Glyph) :
    exponent? (some c :: gs) = some ([], some c :: gs) :=
  if_neg plain

section

variable {rest : List Glyph} (h : Ends rest)
include h

/-- What ends a value is no sign. -/
theorem eitherSign_ends (gs : List Glyph) :
    eitherSign (gs ++ rest) = ((eitherSign gs).1, (eitherSign gs).2 ++ rest) := by
  cases gs with
  | nil =>
    cases rest with
    | nil => rfl
    | cons g rest => rcases h with rfl | rfl | rfl <;> rfl
  | cons g gs =>
    unfold eitherSign
    split <;> simp_all

/-- An exponent ends where a value ends. -/
theorem exponent?_ends (gs : List Glyph) :
    exponent? (gs ++ rest) = (exponent? gs).map fun p => (p.1, p.2 ++ rest) := by
  match gs with
  | [] => exact (ends_numeral h).2.2
  | none :: gs => rfl
  | some c :: gs =>
    rw [List.cons_append]
    by_cases mark : c = 'e' ∨ c = 'E'
    · rw [exponent?_mark mark, exponent?_mark mark, eitherSign_ends h, takeDigits_ends h]
      rcases takeDigits (eitherSign gs).2 with ⟨_ | ⟨d, ds⟩, tail⟩ <;> rfl
    · rw [exponent?_plain mark, exponent?_plain mark]
      rfl

/-- **A numeral ends where a value ends.** -/
theorem numeral?_ends (gs : List Glyph) :
    numeral? (gs ++ rest) = (numeral? gs).map fun p => (p.1, p.2 ++ rest) := by
  rw [numeral?, numeral?, sign_ends h]
  simp only [whole?_ends h]
  cases whole? (sign gs).2 with
  | none => rfl
  | some w =>
    simp only [Option.map_some, Option.bind_eq_bind, Option.bind_some, fraction?_ends h]
    cases fraction? w.2 with
    | none => rfl
    | some f =>
      simp only [Option.map_some, Option.bind_some, exponent?_ends h]
      cases exponent? f.2 <;> rfl

end

/-- A numeral starts with a minus sign or a digit. -/
theorem head_of_numeral? {c : Char} {gs : List Glyph} {p : List Char × List Glyph}
    (h : numeral? (some c :: gs) = some p) : c = '-' ∨ c.isDigit = true := by
  by_cases minus : c = '-'
  · exact .inl minus
  · refine .inr ?_
    have unsigned : sign (some c :: gs) = ([], some c :: gs) := by simp [sign, minus]
    cases digit : c.isDigit with
    | true => rfl
    | false => simp [numeral?, unsigned, whole?, takeDigits, digit] at h

end Numeral

/-- The text is a numeral and nothing else. -/
def IsNumeral (lexeme : String) : Prop :=
  Numeral.numeral? (inks lexeme.toList) = some (lexeme.toList, [])

instance : DecidablePred IsNumeral :=
  fun lexeme => inferInstanceAs
    (Decidable (Numeral.numeral? (inks lexeme.toList) = some (lexeme.toList, [])))

/-- A numeral may have a sign, a fraction and an exponent, but no zero in front. -/
example : IsNumeral "-12.50e+03" ∧ ¬ IsNumeral "012" ∧ ¬ IsNumeral ".5" := by
  decide +kernel

/-- A numeral is not empty. -/
theorem IsNumeral.ne_nil {lexeme : String} (h : IsNumeral lexeme) : lexeme.toList ≠ [] := by
  intro empty
  rw [IsNumeral, empty] at h
  cases h

/-- The digits of a number are a numeral. -/
theorem isNumeral_digits (n : Nat) : IsNumeral (Decimal.text n) := by
  have read : Numeral.numeral? (inks (Decimal.digits n) ++ []) = some (Decimal.digits n, []) :=
    Numeral.numeral?_digits n trivial
  rw [List.append_nil] at read
  rw [IsNumeral, Decimal.text, String.toList_ofList]
  exact read

namespace Token

/-- What starts like a numeral is read as one. -/
theorem next_of_head {c : Char} (head : c = '-' ∨ c.isDigit = true) (gs : List Glyph) :
    next (some c :: gs) = (Numeral.numeral? (some c :: gs)).map fun p =>
      (.number (String.ofList p.1), p.2) := by
  have plain : isSpace c = false := by
    rcases head with rfl | digit
    · rfl
    · simp only [isSpace, decide_eq_false_iff_not, not_or]
      refine ⟨?_, ?_, ?_, ?_⟩ <;> rintro rfl <;> exact absurd digit (by decide)
  unfold next
  simp only [plain]
  rw [if_neg Bool.false_ne_true]
  split
  all_goals first | rfl | (exfalso; revert head; decide)

/-- A numeral is read as such. -/
theorem next_numeral {lexeme : String} (h : IsNumeral lexeme) {rest : List Glyph}
    (ends : Ends rest) :
    next (inks lexeme.toList ++ rest) = some (.number lexeme, rest) := by
  have read : Numeral.numeral? (inks lexeme.toList ++ rest) = some (lexeme.toList, rest) := by
    rw [Numeral.numeral?_ends ends, h]
    rfl
  cases text : lexeme.toList with
  | nil => exact absurd text h.ne_nil
  | cons c cs =>
    rw [text, inks_cons, List.cons_append] at read
    rw [inks_cons, List.cons_append, next_of_head (Numeral.head_of_numeral? read), read,
      Option.map_some, ← text, String.ofList_toList]

/-! ## String literals -/

/-- The piece that a character is read back as: control characters without a short escape are units.
-/
def pieceOf (c : Char) : Piece :=
  if c < ' ' ∧ c ∉ ['\x08', '\x0c', '\n', '\r', '\t'] then .unit c.toNat else .char c

/-- A quote ends the literal. -/
theorem pieces_quote (acc : List Piece) (gs : List Glyph) :
    pieces acc (some '"' :: gs) = some (acc.reverse, gs) := by
  unfold pieces
  rfl

/-- A character that needs no escape is one piece. -/
theorem pieces_plain {c : Char} (quote : c ≠ '"') (backslash : c ≠ '\\') (control : ¬ c < ' ')
    (acc : List Piece) (gs : List Glyph) :
    pieces acc (some c :: gs) = pieces (.char c :: acc) gs := by
  conv => lhs; unfold pieces
  simp only [quote, backslash, control, if_false]

/-- The unit of a control character is read back from its two last digits. -/
theorem unit?_control : ∀ n < 32,
    unit? '0' '0' (Hex.digit (n / 16)) (Hex.digit (n % 16)) = some n := by
  decide

/-- A unit is one piece. -/
theorem pieces_unit {c : Char} (control : c < ' ') (acc : List Piece) (gs : List Glyph) :
    pieces acc (some '\\' :: some 'u' :: some '0' :: some '0' ::
      some (Hex.digit (c.toNat / 16)) :: some (Hex.digit (c.toNat % 16)) :: gs) =
        pieces (.unit c.toNat :: acc) gs := by
  conv => lhs; unfold pieces
  simp only [unit?_control c.toNat control]
  rfl

/-- A written character is one piece. -/
theorem pieces_escape (c : Char) (acc : List Piece) (gs : List Glyph) :
    pieces acc (inks (escape c) ++ gs) = pieces (pieceOf c :: acc) gs := by
  unfold escape
  split
  · subst c
    rfl
  split
  · subst c
    rfl
  split
  · subst c
    rfl
  split
  · subst c
    rfl
  split
  · subst c
    rfl
  split
  · subst c
    rfl
  split
  · subst c
    rfl
  split
  · rename_i quote backslash _ _ _ _ _ control
    have unit : pieceOf c = .unit c.toNat := if_pos ⟨control, by simp [*]⟩
    rw [unit]
    exact pieces_unit control acc gs
  · rename_i quote backslash _ _ _ _ _ control
    have plain : pieceOf c = .char c := if_neg fun h => control h.1
    rw [plain]
    exact pieces_plain quote backslash control acc gs

/-- A written text is one piece for each of its characters. -/
theorem pieces_literal (cs : List Char) (acc : List Piece) (gs : List Glyph) :
    pieces acc (inks (cs.flatMap escape) ++ some '"' :: gs) =
      some (acc.reverse ++ cs.map pieceOf, gs) := by
  induction cs generalizing acc with
  | nil =>
    rw [List.map_nil, List.append_nil]
    exact pieces_quote acc gs
  | cons c cs ih =>
    rw [List.flatMap_cons, inks_append, List.append_assoc, pieces_escape, ih]
    simp

/-- A unit of a control character spells it. -/
theorem spell?_unit {c : Char} (control : c < ' ') (ps : List Piece) :
    spell? (.unit c.toNat :: ps) = (spell? ps).map (c :: ·) := by
  have low : c.toNat < 32 := control
  have high : isHigh c.toNat = false := by simp [isHigh]; omega
  have low' : isLow c.toNat = false := by simp [isLow]; omega
  cases ps with
  | nil => simp [spell?, high, low']
  | cons p ps => cases p <;> simp [spell?, high, low']

/-- The piece of a character spells it. -/
theorem spell?_cons (c : Char) (ps : List Piece) :
    spell? (pieceOf c :: ps) = (spell? ps).map (c :: ·) := by
  unfold pieceOf
  split
  · rename_i control
    exact spell?_unit control.1 ps
  · rw [spell?]

/-- The pieces of a text spell it. -/
theorem spell?_pieceOf (cs : List Char) : spell? (cs.map pieceOf) = some cs := by
  induction cs with
  | nil => rfl
  | cons c cs ih =>
    rw [List.map_cons, spell?_cons, ih]
    rfl

/-- A string literal is read as the text that it writes. -/
theorem next_literal (s : String) (rest : List Glyph) :
    next (inks (literal s) ++ rest) = some (.string (some s), rest) := by
  have read : pieces [] (inks (s.toList.flatMap escape) ++ some '"' :: rest) =
      some (s.toList.map pieceOf, rest) := pieces_literal s.toList [] rest
  have opened : next (some '"' :: (inks (s.toList.flatMap escape) ++ some '"' :: rest)) =
      (pieces [] (inks (s.toList.flatMap escape) ++ some '"' :: rest)).map fun p =>
        (.string ((spell? p.1).map String.ofList), p.2) := rfl
  have text : inks (literal s) ++ rest =
      some '"' :: (inks (s.toList.flatMap escape) ++ some '"' :: rest) := by
    simp [literal]
  simp only [text, opened, read, Option.map_some, spell?_pieceOf, String.ofList_toList]

/-- Half a pair of units is read as a literal that spells no text. -/
theorem next_gap (rest : List Glyph) :
    next (inks (literalOrGap none) ++ rest) = some (.string none, rest) := by
  have read : pieces [] (inks ['\\', 'u', 'd', '8', '0', '0', '"'] ++ rest) =
      some ([.unit 0xD800], rest) := by
    have unit : unit? 'd' '8' '0' '0' = some 0xD800 := by decide
    have piece : pieces [] (inks ['\\', 'u', 'd', '8', '0', '0', '"'] ++ rest) =
        pieces [.unit 0xD800] (some '"' :: rest) := by
      show pieces [] (some '\\' :: some 'u' :: some 'd' :: some '8' :: some '0' :: some '0' ::
        some '"' :: rest) = _
      conv => lhs; unfold pieces
      simp only [unit]
      rfl
    exact piece.trans (pieces_quote _ _)
  have opened : next (some '"' :: (inks ['\\', 'u', 'd', '8', '0', '0', '"'] ++ rest)) =
      (pieces [] (inks ['\\', 'u', 'd', '8', '0', '0', '"'] ++ rest)).map fun p =>
        (.string ((spell? p.1).map String.ofList), p.2) := rfl
  have text : inks (literalOrGap none) ++ rest =
      some '"' :: (inks ['\\', 'u', 'd', '8', '0', '0', '"'] ++ rest) := rfl
  rw [text, opened, read]
  rfl

/-- Every string literal is read as it is written. -/
theorem next_literalOrGap : ∀ (s : Option String) (rest : List Glyph),
    next (inks (literalOrGap s) ++ rest) = some (.string s, rest)
  | some s, rest => next_literal s rest
  | none, rest => next_gap rest

end Token
end Holdfast.Json
