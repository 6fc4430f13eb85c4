import Holdfast.Text.Hex
import Holdfast.Json.Basic

/-!
# Writing JSON texts

The compact form: no white space, members in their order. In a string, a quote and a backslash are
escaped with a backslash, five control characters have short escapes, the others are written as a
unit of four lower-case hexadecimal digits, and everything else stands for itself.
-/

namespace Holdfast.Json

open Text

/-- One character as it stands in a string literal. -/
def escape (c : Char) : List Char :=
  if c = '"' then ['\\', '"']
  else if c = '\\' then ['\\', '\\']
  else if c = '\x08' then ['\\', 'b']
  else if c = '\x0c' then ['\\', 'f']
  else if c = '\n' then ['\\', 'n']
  else if c = '\r' then ['\\', 'r']
  else if c = '\t' then ['\\', 't']
  else if c < ' ' then
    ['\\', 'u', '0', '0', Hex.digit (c.toNat / 16), Hex.digit (c.toNat % 16)]
  else [c]

/-- A string literal. -/
def literal (s : String) : List Char := ['"'] ++ s.toList.flatMap escape ++ ['"']

/-- A literal that spells no text is written as half a pair of units. -/
def literalOrGap : Option String → List Char
  | some s => literal s
  | none => ['"', '\\', 'u', 'd', '8', '0', '0', '"']

mutual

/-- The compact form of a value. -/
def write : Json → List Char
  | .null => ['n', 'u', 'l', 'l']
  | .bool true => ['t', 'r', 'u', 'e']
  | .bool false => ['f', 'a', 'l', 's', 'e']
  | .number lexeme => lexeme.toList
  | .string s => literalOrGap s
  | .array items => ['['] ++ writeItems items ++ [']']
  | .object members => ['\x7b'] ++ writeMembers members ++ ['\x7d']
termination_by structural j => j

/-- Items with commas between them. -/
def writeItems : List Json → List Char
  | [] => []
  | j :: rest => write j ++ writeMoreItems rest
termination_by structural js => js

/-- Items with a comma before each. -/
def writeMoreItems : List Json → List Char
  | [] => []
  | j :: rest => [','] ++ write j ++ writeMoreItems rest
termination_by structural js => js

/-- One member. -/
def writeMember : (Option String × Json) → List Char
  | (key, j) => literalOrGap key ++ [':'] ++ write j
termination_by structural m => m

/-- Members with commas between them. -/
def writeMembers : List (Option String × Json) → List Char
  | [] => []
  | m :: rest => writeMember m ++ writeMoreMembers rest
termination_by structural ms => ms

/-- Members with a comma before each. -/
def writeMoreMembers : List (Option String × Json) → List Char
  | [] => []
  | m :: rest => [','] ++ writeMember m ++ writeMoreMembers rest
termination_by structural ms => ms

end

/-- The compact form as a string. -/
def render (j : Json) : String := String.ofList j.write

end Holdfast.Json
