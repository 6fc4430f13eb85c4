/-!
# White space

The characters with the Unicode property `White_Space`, and the two ways this library drops them:
from the front of a text, and from both ends.
-/

namespace Holdfast.Text

/-- The Unicode property `White_Space`. -/
def isBlank (c : Char) : Bool :=
  let n := c.toNat
  (0x09 ≤ n && n ≤ 0x0D) || n == 0x20 || n == 0x85 || n == 0xA0 || n == 0x1680 ||
    (0x2000 ≤ n && n ≤ 0x200A) || n == 0x2028 || n == 0x2029 || n == 0x202F || n == 0x205F ||
    n == 0x3000

/-- A text without the white space in front of it. -/
def skipBlank (cs : List Char) : List Char := cs.dropWhile isBlank

/-- A text without the white space at either end. -/
def trimBlank (cs : List Char) : List Char :=
  (skipBlank (skipBlank cs).reverse).reverse

/-- `trimBlank` on strings. -/
def trim (s : String) : String := String.ofList (trimBlank s.toList)

end Holdfast.Text
