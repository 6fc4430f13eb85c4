import Holdfast.Text.Octets

/-!
# Numerals

The grammar of a JSON number (`numeral?`), and whether a numeral, read as a significand of at most 64
bits scaled by a power of ten in double precision, stays in the range of finite numbers (`isFinite`).
-/

namespace Holdfast.Json.Numeral

open Text

/-- The longest run of ASCII digits in front, and what follows it. -/
def takeDigits : List Glyph → List Char × List Glyph
  | some c :: rest =>
    if c.isDigit then
      let (ds, tail) := takeDigits rest
      (c :: ds, tail)
    else ([], some c :: rest)
  | gs => ([], gs)

/-- An optional minus sign. -/
def sign : List Glyph → List Char × List Glyph
  | some '-' :: rest => (['-'], rest)
  | gs => ([], gs)

/-- The digits before the point: one zero, or digits that do not start with one. -/
def whole? (gs : List Glyph) : Option (List Char × List Glyph) :=
  match takeDigits gs with
  | ([], _) => none
  | ('0' :: _ :: _, _) => none
  | (ds, rest) => some (ds, rest)

/-- The point and at least one digit, or nothing. -/
def fraction? : List Glyph → Option (List Char × List Glyph)
  | some '.' :: rest =>
    match takeDigits rest with
    | ([], _) => none
    | (ds, tail) => some ('.' :: ds, tail)
  | gs => some ([], gs)

/-- The exponent mark, an optional sign and at least one digit, or nothing. -/
def exponent? : List Glyph → Option (List Char × List Glyph)
  | some c :: rest =>
    if c = 'e' ∨ c = 'E' then
      let (s, rest) := match rest with
        | some '+' :: tail => (['+'], tail)
        | some '-' :: tail => (['-'], tail)
        | _ => ([], rest)
      match takeDigits rest with
      | ([], _) => none
      | (ds, tail) => some (c :: s ++ ds, tail)
    else some ([], some c :: rest)
  | gs => some ([], gs)

/-- A numeral in front of the text, and what follows it. -/
def numeral? (gs : List Glyph) : Option (List Char × List Glyph) := do
  let (s, gs) := sign gs
  let (w, gs) ← whole? gs
  let (f, gs) ← fraction? gs
  let (e, gs) ← exponent? gs
  return (s ++ w ++ f ++ e, gs)

/-! ## Range -/

/-- The nearest number with at most 53 significant bits, the even one of two. -/
def round53 (n : Nat) : Nat :=
  let surplus := Nat.log2 n + 1 - 53
  let unit := Nat.pow 2 surplus
  let q := n / unit
  let r := n % unit
  if surplus = 0 then n
  else if 2 * r > unit ∨ (2 * r = unit ∧ q % 2 = 1) then (q + 1) * unit
  else q * unit

/-- The least number that rounds to infinity in double precision. -/
def overflow : Nat := Nat.pow 2 1024 - Nat.pow 2 970

/-- A significand of at most 64 bits, scaled by a power of ten. -/
structure Scaled where
  significand : Nat := 0
  exponent : Int := 0
  /-- Digits after one that no longer fitted are not taken into the significand. -/
  full : Bool := false

/-- The significand with one more digit, if it fits. -/
def Scaled.push? (s : Scaled) (d : Nat) : Option Nat :=
  if s.full ∨ UInt64.size ≤ s.significand * 10 + d then none else some (s.significand * 10 + d)

/-- A digit before the point. -/
def Scaled.wholeDigit (s : Scaled) (c : Char) : Scaled :=
  match s.push? (c.toNat - 0x30) with
  | some n => { s with significand := n }
  | none => { s with exponent := s.exponent + 1, full := true }

/-- A digit after the point. -/
def Scaled.fractionDigit (s : Scaled) (c : Char) : Scaled :=
  match s.push? (c.toNat - 0x30) with
  | some n => { s with significand := n, exponent := s.exponent - 1 }
  | none => { s with full := true }

/-- Is the scaled number finite in double precision? -/
def Scaled.isFinite (s : Scaled) : Bool :=
  s.significand = 0 ∨ s.exponent < 0 ∨
    (s.exponent ≤ 308 ∧ round53 s.significand * round53 (Nat.pow 10 s.exponent.toNat) < overflow)

/-- Is the numeral finite in double precision? -/
def isFinite (lexeme : List Char) : Bool :=
  let body := lexeme.dropWhile (· = '-')
  let mantissa := body.takeWhile fun c => c ≠ 'e' ∧ c ≠ 'E'
  let power := body.drop (mantissa.length + 1)
  let magnitude : Nat := (power.filter Char.isDigit).foldl (fun n c => 10 * n + (c.toNat - 0x30)) 0
  let shift : Int := if power.head? = some '-' then -(magnitude : Int) else magnitude
  let point := mantissa.takeWhile (· ≠ '.')
  let s := point.foldl Scaled.wholeDigit {}
  let s := (mantissa.drop (point.length + 1)).foldl Scaled.fractionDigit { s with full := false }
  { s with exponent := s.exponent + shift }.isFinite

end Holdfast.Json.Numeral
