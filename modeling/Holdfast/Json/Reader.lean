import Holdfast.Json.Basic
import Holdfast.Json.Token

/-!
# Reading JSON texts

A machine with a stack of the arrays and objects that are still open takes one token at a time, so
a text may nest as deep as it likes. `Json.value?` reads the value in front of a text and leaves the
rest; `Json.parse?` wants nothing but white space after the value.
-/

namespace Holdfast.Json

open Text

/-- An array or object that is still open, with what it holds so far in reverse order. -/
inductive Frame where
  | items (done : List Json)
  /-- The value of the member named `key` is next. -/
  | members (done : List (Option String × Json)) (key : Option String)

/-- What the text must go on with. -/
inductive State where
  /-- A value. -/
  | value (stack : List Frame)
  /-- A value, or the end of the array just opened. -/
  | firstItem (stack : List Frame)
  /-- A member, or the end of the object just opened. -/
  | firstMember (stack : List Frame)
  /-- Another member of an object. -/
  | nextMember (done : List (Option String × Json)) (stack : List Frame)
  /-- The colon after a member's name. -/
  | colon (done : List (Option String × Json)) (key : Option String) (stack : List Frame)
  /-- What may follow a value that is complete. -/
  | complete (j : Json) (stack : List Frame)

namespace State

/-- The first token of a value. -/
def start (stack : List Frame) : Token → Option State
  | .null => some (.complete .null stack)
  | .bool b => some (.complete (.bool b) stack)
  | .number n => some (.complete (.number n) stack)
  | .string s => some (.complete (.string s) stack)
  | .openArray => some (.firstItem stack)
  | .openObject => some (.firstMember stack)
  | _ => none

/-- One token. -/
def step : State → Token → Option State
  | .value stack, t => start stack t
  | .firstItem stack, t =>
    if t = .closeArray then some (.complete (.array []) stack) else start (.items [] :: stack) t
  | .firstMember stack, .closeObject => some (.complete (.object []) stack)
  | .firstMember stack, .string key => some (.colon [] key stack)
  | .nextMember done stack, .string key => some (.colon done key stack)
  | .colon done key stack, .colon => some (.value (.members done key :: stack))
  | .complete j (.items done :: stack), .comma => some (.value (.items (j :: done) :: stack))
  | .complete j (.items done :: stack), .closeArray =>
    some (.complete (.array (j :: done).reverse) stack)
  | .complete j (.members done key :: stack), .comma =>
    some (.nextMember ((key, j) :: done) stack)
  | .complete j (.members done key :: stack), .closeObject =>
    some (.complete (.object ((key, j) :: done).reverse) stack)
  | _, _ => none

/-- Runs the machine for at most so many tokens. -/
def run : Nat → State → List Glyph → Option (Json × List Glyph)
  | _, .complete j [], gs => some (j, gs)
  | 0, _, _ => none
  | fuel + 1, state, gs =>
    match Token.next gs with
    | none => none
    | some (t, rest) =>
      match state.step t with
      | none => none
      | some state => run fuel state rest

end State

/-- The value in front of a text, and what follows it. A text has no more tokens than glyphs. -/
def value? (gs : List Glyph) : Option (Json × List Glyph) :=
  State.run gs.length (.value []) gs

/-- The value that a text writes. -/
def parse? (gs : List Glyph) : Option Json :=
  match value? gs with
  | some (j, rest) => if rest.all (·.any Token.isSpace) then some j else none
  | none => none

end Holdfast.Json
