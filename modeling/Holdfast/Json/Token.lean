import Holdfast.Text.Hex
import Holdfast.Json.Numeral

/-!
# JSON tokens

The lexical layer of a JSON text. `Token.next` takes the white space and one token off the front of
the text. A string literal is read into pieces first: characters, `\u` units and gaps. Whether they
spell a text is decided afterwards, since two units in a row may stand for one character.
-/

namespace Holdfast.Json

open Text

/-- A token of a JSON text. -/
inductive Token where
  | openObject
  | closeObject
  | openArray
  | closeArray
  | colon
  | comma
  | null
  | bool (b : Bool)
  | number (lexeme : String)
  | string (text : Option String)
  deriving DecidableEq

namespace Token

/-- White space between tokens: space, line feed, carriage return and tab. -/
def isSpace (c : Char) : Bool := c = ' ' ∨ c = '\n' ∨ c = '\r' ∨ c = '\t'

/-! ## String literals -/

/-- A piece of a string literal. -/
inductive Piece where
  | char (c : Char)
  /-- A unit written as `\u` and four hexadecimal digits. -/
  | unit (n : Nat)
  /-- Octets that spell no character. -/
  | gap

/-- The character after a backslash, other than `u`. -/
def escaped? : Char → Option Char
  | '"' => some '"'
  | '\\' => some '\\'
  | '/' => some '/'
  | 'b' => some '\x08'
  | 'f' => some '\x0c'
  | 'n' => some '\n'
  | 'r' => some '\r'
  | 't' => some '\t'
  | _ => none

/-- The unit that four hexadecimal digits write. -/
def unit? (a b c d : Char) : Option Nat := do
  return 4096 * (← Hex.value? a) + 256 * (← Hex.value? b) + 16 * (← Hex.value? c) + (← Hex.value? d)

/-- The pieces of a literal up to its closing quote, after the pieces `acc` in reverse order, and
what follows the quote. A control character inside a literal is an error. -/
def pieces (acc : List Piece) : List Glyph → Option (List Piece × List Glyph)
  | [] => none
  | none :: rest => pieces (.gap :: acc) rest
  | some c :: rest =>
    if c = '"' then some (acc.reverse, rest)
    else if c = '\\' then
      match rest with
      | some 'u' :: some x :: some y :: some z :: some w :: tail =>
        match unit? x y z w with
        | some n => pieces (.unit n :: acc) tail
        | none => none
      | some e :: tail =>
        match escaped? e with
        | some x => pieces (.char x :: acc) tail
        | none => none
      | _ => none
    else if c < ' ' then none
    else pieces (.char c :: acc) rest

/-- Is the unit the first of a pair? -/
def isHigh (n : Nat) : Bool := 0xD800 ≤ n ∧ n ≤ 0xDBFF

/-- Is the unit the second of a pair? -/
def isLow (n : Nat) : Bool := 0xDC00 ≤ n ∧ n ≤ 0xDFFF

/-- The text that pieces spell. A pair of units is one character; half a pair, or a gap, spells none. -/
def spell? : List Piece → Option (List Char)
  | [] => some []
  | .char c :: rest => (spell? rest).map (c :: ·)
  | .gap :: _ => none
  | .unit n :: .unit m :: rest =>
    if isHigh n then
      if isLow m then
        (spell? rest).map (Char.ofNat (0x10000 + (n - 0xD800) * 1024 + (m - 0xDC00)) :: ·)
      else none
    else if isLow n then none
    else (spell? (.unit m :: rest)).map (Char.ofNat n :: ·)
  | .unit n :: rest =>
    if isHigh n || isLow n then none else (spell? rest).map (Char.ofNat n :: ·)

/-! ## One token -/

/-- The rest of the text after the given word. -/
def word? : List Char → List Glyph → Option (List Glyph)
  | [], gs => some gs
  | c :: cs, some d :: gs => if c = d then word? cs gs else none
  | _ :: _, _ => none

/-- The first token of a text, and what follows it. -/
def next : List Glyph → Option (Token × List Glyph)
  | [] => none
  | none :: _ => none
  | some c :: rest =>
    if isSpace c then next rest
    else match c with
      | '\x7b' => some (.openObject, rest)
      | '\x7d' => some (.closeObject, rest)
      | '[' => some (.openArray, rest)
      | ']' => some (.closeArray, rest)
      | ':' => some (.colon, rest)
      | ',' => some (.comma, rest)
      | '"' => (pieces [] rest).map fun (ps, tail) => (.string ((spell? ps).map String.ofList), tail)
      | 'n' => (word? ['u', 'l', 'l'] rest).map fun tail => (.null, tail)
      | 't' => (word? ['r', 'u', 'e'] rest).map fun tail => (.bool true, tail)
      | 'f' => (word? ['a', 'l', 's', 'e'] rest).map fun tail => (.bool false, tail)
      | _ => (Numeral.numeral? (some c :: rest)).map fun (cs, tail) =>
          (.number (String.ofList cs), tail)

end Token
end Holdfast.Json
