import Holdfast.Text.Hex
import Holdfast.Text.Printable

/-!
# Quoted text in messages

A text shown inside a message stands in double quotes. A quote, a backslash, a tab, a line feed, a
carriage return and a NUL have short escapes; any other character that does not show on its own is
written as its code point in lower-case hexadecimal digits.
-/

namespace Holdfast.Text.Quoted

/-- One character as it stands between the quotes. -/
def escape (c : Char) : List Char :=
  if c = '\x00' then ['\\', '0']
  else if c = '\t' then ['\\', 't']
  else if c = '\n' then ['\\', 'n']
  else if c = '\r' then ['\\', 'r']
  else if c = '\\' then ['\\', '\\']
  else if c = '"' then ['\\', '"']
  else if isPrintable c then [c]
  else ['\\', 'u', '\x7b'] ++ Hex.digits c.toNat ++ ['\x7d']

/-- The text in double quotes. -/
def write (s : String) : String :=
  String.ofList (['"'] ++ s.toList.flatMap escape ++ ['"'])

end Holdfast.Text.Quoted
