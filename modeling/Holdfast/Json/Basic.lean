import Holdfast.Text.Decimal

/-!
# JSON values

A value keeps what its text says and nothing else: members in their order and as often as they
occur, a numeral as it is written. A string literal whose escapes or octets spell no text is still a
literal, so a reader that skips it need not refuse it; it holds `none`.
-/

namespace Holdfast

/-- A JSON value. -/
inductive Json where
  | null
  | bool (b : Bool)
  | number (lexeme : String)
  | string (text : Option String)
  | array (items : List Json)
  | object (members : List (Option String × Json))
  deriving Inhabited

namespace Json

/-- A string literal that spells a text. -/
def text (s : String) : Json := .string (some s)

/-- A natural number in decimal digits. -/
def natural (n : Nat) : Json := .number (Text.Decimal.text n)

/-- An unsigned 64-bit number in decimal digits. -/
def word (n : UInt64) : Json := natural n.toNat

/-- An object with the given fields. -/
def record (fields : List (String × Json)) : Json :=
  .object (fields.map fun (name, value) => (some name, value))

/-- The value, or `null` for none. -/
def orNull (j : Option Json) : Json := j.getD .null

/-- The text of a string literal that spells one. -/
def text? : Json → Option String
  | .string s => s
  | _ => none

/-- A truth value. -/
def bool? : Json → Option Bool
  | .bool b => some b
  | _ => none

/-- A natural number written without sign, fraction and exponent. -/
def natural? : Json → Option Nat
  | .number lexeme => Text.Decimal.read? lexeme.toList
  | _ => none

/-- A natural number of at most 64 bits. -/
def word? (j : Json) : Option UInt64 :=
  (j.natural?.filter (· < UInt64.size)).map UInt64.ofNat

/-- The items of an array. -/
def items? : Json → Option (List Json)
  | .array items => some items
  | _ => none

/-- Reads every item of an array with `read`. -/
def listOf? {α : Type} (read : Json → Option α) (j : Json) : Option (List α) := do
  (← j.items?).mapM read

/-- `null` is no value; anything else is read with `read`. -/
def nullable? {α : Type} (read : Json → Option α) : Json → Option (Option α)
  | .null => some none
  | j => (read j).map some

theorem natural?_natural (n : Nat) : (natural n).natural? = some n := by
  simp [natural, natural?, Text.Decimal.text, Text.Decimal.read?_digits]

theorem word?_word (n : UInt64) : (word n).word? = some n := by
  have h : decide (n.toNat < UInt64.size) = true := decide_eq_true n.toNat_lt
  rw [word, word?, natural?_natural, Option.filter, if_pos h]
  exact congrArg some UInt64.ofNat_toNat

end Json
end Holdfast
