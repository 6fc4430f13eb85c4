/-!
# Session identifiers

An identifier of 128 bits, written as 26 digits of base 32 in an alphabet without `I`, `L`, `O` and
`U`. The first digit has two bits more than are left; they are dropped when it is read. Letters are
read in either case and written in upper case.
-/

namespace Holdfast

/-- The identifier of a live connection. -/
abbrev SessionId := BitVec 128

namespace SessionId

/-- The digits of base 32 in increasing order. -/
def alphabet : List Char :=
  ['0', '1', '2', '3', '4', '5', '6', '7', '8', '9', 'A', 'B', 'C', 'D', 'E', 'F', 'G', 'H', 'J', 'K',
    'M', 'N', 'P', 'Q', 'R', 'S', 'T', 'V', 'W', 'X', 'Y', 'Z']

/-- The digit of a number below 32. -/
def digit (n : Nat) : Char := alphabet.getD n '0'

/-- The value of a digit. -/
def digitValue? (c : Char) : Option Nat := alphabet.idxOf? c.toUpper

/-- How many digits an identifier has. -/
def length : Nat := 26

/-- The last `k` digits of a number in base 32. -/
def digits : Nat → Nat → List Char
  | 0, _ => []
  | k + 1, n => digits k (n / 32) ++ [digit (n % 32)]

/-- The written form. -/
def text (id : SessionId) : String := String.ofList (digits length id.toNat)

/-- Reads an identifier from the characters of a text. -/
def readChars? (cs : List Char) : Option SessionId := do
  guard (cs.length = length)
  let ds ← cs.mapM digitValue?
  return BitVec.ofNat 128 (ds.foldl (fun n d => 32 * n + d) 0)

/-- Reads an identifier. -/
def read? (s : String) : Option SessionId := readChars? s.toList

theorem digitValue?_digit : ∀ n < 32, digitValue? (digit n) = some n := by decide

end SessionId
end Holdfast
