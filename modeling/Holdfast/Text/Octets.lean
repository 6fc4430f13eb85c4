/-!
# Characters read from octets

Octets are read as UTF-8. What spells no character is kept as a gap, one for each longest piece
that could have begun a character, so a reader can refuse it, skip it or put a replacement there.
-/

namespace Holdfast.Text

/-- A character, or a gap where the octets spell none. -/
abbrev Glyph := Option Char

/-- The glyphs of a text that has no gaps. -/
def glyphs (s : String) : List Glyph := s.toList.map some

namespace Octets

/-- A character whose first octets were read: the bits so far, how many octets are owed, and the
range that the next one must lie in. -/
structure Pending where
  code : Nat
  owed : Nat
  low : Nat
  high : Nat

/-- What an octet says when it stands where a character begins. -/
inductive Lead where
  | whole (c : Char)
  | opens (p : Pending)
  | bad

/-- The first octet of a character. The ranges leave out overlong forms, surrogates and numbers
above the last code point. -/
def lead (b : Nat) : Lead :=
  if b < 0x80 then .whole (Char.ofNat b)
  else if b < 0xC2 then .bad
  else if b < 0xE0 then .opens ⟨b - 0xC0, 1, 0x80, 0xBF⟩
  else if b = 0xE0 then .opens ⟨0, 2, 0xA0, 0xBF⟩
  else if b = 0xED then .opens ⟨0xD, 2, 0x80, 0x9F⟩
  else if b < 0xF0 then .opens ⟨b - 0xE0, 2, 0x80, 0xBF⟩
  else if b = 0xF0 then .opens ⟨0, 3, 0x90, 0xBF⟩
  else if b < 0xF4 then .opens ⟨b - 0xF0, 3, 0x80, 0xBF⟩
  else if b = 0xF4 then .opens ⟨4, 3, 0x80, 0x8F⟩
  else .bad

/-- Reads octets, the first of which may go on with the character begun in `pending`. -/
def decodeFrom : Option Pending → List UInt8 → List Glyph
  | none, [] => []
  | some _, [] => [none]
  | some p, b :: rest =>
    let n := b.toNat
    if p.low ≤ n ∧ n ≤ p.high then
      let code := p.code * 64 + n % 64
      if p.owed = 1 then some (Char.ofNat code) :: decodeFrom none rest
      else decodeFrom (some ⟨code, p.owed - 1, 0x80, 0xBF⟩) rest
    else
      match lead n with
      | .whole c => none :: some c :: decodeFrom none rest
      | .opens q => none :: decodeFrom (some q) rest
      | .bad => none :: none :: decodeFrom none rest
  | none, b :: rest =>
    match lead b.toNat with
    | .whole c => some c :: decodeFrom none rest
    | .opens q => decodeFrom (some q) rest
    | .bad => none :: decodeFrom none rest

/-- The glyphs that octets spell in UTF-8. -/
def decode (bytes : List UInt8) : List Glyph := decodeFrom none bytes

/-- The octets of a string in UTF-8. -/
def encode (s : String) : List UInt8 := s.toUTF8.data.toList

/-- The text that octets spell, if they spell one without a gap. -/
def text? (bytes : List UInt8) : Option String :=
  ((decode bytes).mapM id).map String.ofList

/-- The text that octets spell, with a replacement character in every gap. -/
def lossy (bytes : List UInt8) : String :=
  String.ofList ((decode bytes).map (·.getD '\uFFFD'))

end Octets
end Holdfast.Text
