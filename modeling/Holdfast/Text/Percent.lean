import Holdfast.Text.Hex
import Holdfast.Text.Octets

/-!
# Percent-encoded text

In a path, a percent sign and two hexadecimal digits stand for an octet, and any other percent sign
for itself; the octets must spell a text. In a query, fields are parted by ampersands and a name
from its value by the first equals sign, a plus sign is a space, and octets that spell no character
become replacement characters.
-/

namespace Holdfast.Text.Percent

/-- The octet that two hexadecimal digits write. -/
def pair? (x y : UInt8) : Option UInt8 := do
  let high ← Hex.value? (Char.ofNat x.toNat)
  let low ← Hex.value? (Char.ofNat y.toNat)
  return UInt8.ofNat (16 * high + low)

/-- The octets that a percent-encoded text stands for. -/
def decode : List UInt8 → List UInt8
  | [] => []
  | 0x25 :: x :: y :: rest =>
    match pair? x y with
    | some b => b :: decode rest
    | none => 0x25 :: decode (x :: y :: rest)
  | b :: rest => b :: decode rest

/-- The text of a path segment, if its octets spell one. -/
def segment? (s : String) : Option String := Octets.text? (decode (Octets.encode s))

/-- A query's name or value. -/
def formText (bytes : List UInt8) : String :=
  Octets.lossy (decode (bytes.map fun b => if b = 0x2B then 0x20 else b))

/-- The parts of a list between the elements equal to `sep`. -/
def splitAt (sep : UInt8) : List UInt8 → List (List UInt8)
  | [] => [[]]
  | b :: rest =>
    match splitAt sep rest with
    | [] => []
    | part :: parts => if b = sep then [] :: part :: parts else (b :: part) :: parts

/-- One field of a query: its name, and its value after the first equals sign. -/
def field (part : List UInt8) : String × String :=
  (formText (part.takeWhile (· ≠ 0x3D)), formText ((part.dropWhile (· ≠ 0x3D)).drop 1))

/-- The fields of a query, in order; an empty part is no field. -/
def fields (query : String) : List (String × String) :=
  ((splitAt 0x26 (Octets.encode query)).filter (·.length ≠ 0)).map field

end Holdfast.Text.Percent
