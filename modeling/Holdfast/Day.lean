import Holdfast.SortedMap
import Holdfast.Text.Blank
import Holdfast.Text.Decimal

/-!
# Calendar days

A day of the proleptic Gregorian calendar, from `-262143-01-01` to `+262142-12-31`; year 0 exists
and is a leap year. `Day.text` writes a day and `Day.read?` reads one, with white space allowed before
each number, before each hyphen and at the end.
-/

namespace Holdfast

/-- Every fourth year, but of the hundreds only every fourth. -/
def isLeapYear (y : Int) : Bool := y % 4 = 0 ∧ (y % 100 ≠ 0 ∨ y % 400 = 0)

/-- The number of days of a month; zero for what is no month. -/
def monthLength (y : Int) (m : Nat) : Nat :=
  match m with
  | 1 => 31
  | 2 => if isLeapYear y then 29 else 28
  | 3 => 31
  | 4 => 30
  | 5 => 31
  | 6 => 30
  | 7 => 31
  | 8 => 31
  | 9 => 30
  | 10 => 31
  | 11 => 30
  | 12 => 31
  | _ => 0

/-- Is there such a day in the calendar? -/
def IsDate (y : Int) (m d : Nat) : Prop :=
  -262143 ≤ y ∧ y ≤ 262142 ∧ 1 ≤ d ∧ d ≤ monthLength y m

instance (y : Int) (m d : Nat) : Decidable (IsDate y m d) :=
  inferInstanceAs (Decidable (_ ∧ _ ∧ _ ∧ _))

/-- A day of the calendar. -/
structure Day where
  year : Int
  month : Nat
  dayOfMonth : Nat
  isDate : IsDate year month dayOfMonth
  deriving DecidableEq

namespace Day

/-- The day with the given year, month and day of the month, if there is one. -/
def of? (y : Int) (m d : Nat) : Option Day :=
  if h : IsDate y m d then some ⟨y, m, d, h⟩ else none

/-- A number that grows with the date: years, months and days of the month in a mixed base. -/
def rank (d : Day) : Int := (d.year * 13 + d.month) * 32 + d.dayOfMonth

theorem monthLength_le (y : Int) (m : Nat) :
    monthLength y m ≤ 31 ∧ (m = 0 ∨ 12 < m → monthLength y m = 0) := by
  unfold monthLength
  split
  case h_2 => split <;> omega
  all_goals omega

theorem dayOfMonth_le (d : Day) : 1 ≤ d.month ∧ d.month ≤ 12 ∧ d.dayOfMonth ≤ 31 := by
  obtain ⟨-, -, low, high⟩ := d.isDate
  obtain ⟨bound, none⟩ := monthLength_le d.year d.month
  omega

theorem rank_injective {a b : Day} (h : a.rank = b.rank) : a = b := by
  have ha := a.dayOfMonth_le
  have hb := b.dayOfMonth_le
  obtain ⟨y, m, d, _⟩ := a
  obtain ⟨y', m', d', _⟩ := b
  simp only [rank] at h ha hb
  obtain rfl : d = d' := by omega
  obtain rfl : m = m' := by omega
  obtain rfl : y = y' := by omega
  rfl

instance : LT Day := ⟨fun a b => a.rank < b.rank⟩

instance : KeyOrder Day where
  decLt a b := inferInstanceAs (Decidable (a.rank < b.rank))
  decEq := inferInstance
  irrefl a := Int.lt_irrefl a.rank
  trans := Int.lt_trans
  trichotomy a b := by
    rcases Int.lt_trichotomy a.rank b.rank with h | h | h
    · exact .inl h
    · exact .inr (.inl (rank_injective h))
    · exact .inr (.inr h)

/-! ## Text -/

/-- Decimal digits with zeros in front up to a width. -/
def padded (width n : Nat) : List Char :=
  let ds := Text.Decimal.digits n
  List.replicate (width - ds.length) '0' ++ ds

/-- A year: four digits, with a sign before it when it is negative or has more than four. -/
def yearText (y : Int) : List Char :=
  if 0 ≤ y ∧ y ≤ 9999 then padded 4 y.toNat
  else (if y < 0 then '-' else '+') :: padded 4 y.natAbs

/-- Year, month and day of the month with hyphens between them. -/
def chars (d : Day) : List Char :=
  yearText d.year ++ ['-'] ++ padded 2 d.month ++ ['-'] ++ padded 2 d.dayOfMonth

/-- The written form of a day. -/
def text (d : Day) : String := String.ofList d.chars

/-- The number written by at most `width` digits in front of a text, and what follows them. -/
def number? (width : Nat) (cs : List Char) : Option (Nat × List Char) :=
  let ds := (cs.take width).takeWhile fun c => (Text.Decimal.digitValue? c).isSome
  (Text.Decimal.read? ds).map fun n => (n, cs.drop ds.length)

/-- A year: up to four digits, or a sign and any number of digits. -/
def year? (cs : List Char) : Option (Int × List Char) :=
  match Text.skipBlank cs with
  | '-' :: rest => (number? rest.length rest).map fun (n, tail) => (-(n : Int), tail)
  | '+' :: rest => (number? rest.length rest).map fun (n, tail) => ((n : Int), tail)
  | rest => (number? 4 rest).map fun (n, tail) => ((n : Int), tail)

/-- A hyphen, with white space before it. -/
def hyphen? (cs : List Char) : Option (List Char) :=
  match Text.skipBlank cs with
  | '-' :: rest => some rest
  | _ => none

/-- Reads a day from the characters of a text. -/
def readChars? (cs : List Char) : Option Day := do
  let (y, cs) ← year? cs
  let cs ← hyphen? cs
  let (m, cs) ← number? 2 (Text.skipBlank cs)
  let cs ← hyphen? cs
  let (d, cs) ← number? 2 (Text.skipBlank cs)
  guard (Text.skipBlank cs = [])
  of? y m d

/-- Reads a day. -/
def read? (s : String) : Option Day := readChars? s.toList

/-! ## The next day -/

/-- The day after, if the calendar has one. -/
def next? (d : Day) : Option Day :=
  match of? d.year d.month (d.dayOfMonth + 1) with
  | some e => some e
  | none =>
    match of? d.year (d.month + 1) 1 with
    | some e => some e
    | none => of? (d.year + 1) 1 1

/-- The day a number of days later, if the calendar has one. -/
def later? (d : Day) : Nat → Option Day
  | 0 => some d
  | n + 1 => (d.later? n).bind next?

end Day

/-- A set of days. -/
abbrev DaySet := SortedMap Day Unit

namespace DaySet

/-- The set of the days in a list. -/
def ofDays (ds : List Day) : DaySet := SortedMap.ofList (ds.map (·, ()))

/-- The days of a set in increasing order. -/
def days (s : DaySet) : List Day := s.toList.map (·.1)

/-- Does the set hold the day? -/
def contains (s : DaySet) (d : Day) : Bool := (s.get? d).isSome

end DaySet
end Holdfast
