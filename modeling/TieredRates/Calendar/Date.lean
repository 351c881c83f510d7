import TieredRates.Text.Digits

namespace TieredRates

open Text

structure Civil where
  year : Int
  month : Nat
  day : Nat
deriving DecidableEq

namespace Civil

def isLeapYear (year : Int) : Bool := year % 4 = 0 && (year % 100 ≠ 0 || year % 400 = 0)

def monthLength (year : Int) (month : Nat) : Nat :=
  if month = 2 then if isLeapYear year then 29 else 28
  else if month = 4 ∨ month = 6 ∨ month = 9 ∨ month = 11 then 30 else 31

def Exists (c : Civil) : Prop :=
  1 ≤ c.month ∧ c.month ≤ 12 ∧ 1 ≤ c.day ∧ c.day ≤ monthLength c.year c.month

instance (c : Civil) : Decidable c.Exists := inferInstanceAs (Decidable (_ ∧ _))

/-- Days from 1970-01-01. Years are taken to begin in March, which puts the leap day last. -/
def dayNumber (c : Civil) : Int :=
  let y := if c.month ≤ 2 then c.year - 1 else c.year
  let m := if c.month ≤ 2 then c.month + 9 else c.month - 3
  365 * y + y / 4 - y / 100 + y / 400 + (153 * m + 2) / 5 + c.day - 719469

/-- The day with this distance from 1970-01-01: 400-year eras, then centuries, four-year spans,
years and months, each beginning in March. -/
def ofDayNumber (n : Int) : Civil :=
  let z := n + 719468
  let inEra := (z % 146097).toNat
  -- the last day of an era or of a span belongs to the century or the year before it
  let century := min 3 (inEra / 36524)
  let inCentury := inEra - 36524 * century
  let span := inCentury / 1461
  let inSpan := inCentury % 1461
  let year := min 3 (inSpan / 365)
  let inYear := inSpan - 365 * year
  let m := (5 * inYear + 2) / 153
  let y : Int := 400 * (z / 146097) + (100 * century + 4 * span + year : Nat)
  { year := if m < 10 then y else y + 1
    month := if m < 10 then m + 3 else m - 9
    day := inYear - (153 * m + 2) / 5 + 1 }

/-- Four digits for the years 0 to 9999, a sign and at least four digits for the others. -/
def yearChars (year : Int) : List Char :=
  if 0 ≤ year ∧ year ≤ 9999 then padded 4 year.toNat
  else (if year < 0 then '-' else '+') :: padded 4 year.natAbs

def chars (c : Civil) : List Char :=
  yearChars c.year ++ '-' :: padded 2 c.month ++ '-' :: padded 2 c.day

end Civil

/-- A day of the Gregorian calendar, which is carried back to all the years from -262143 to 262142.
-/
structure Date where
  dayNumber : Int
  first_le : -96465292 ≤ dayNumber := by decide
  le_last : dayNumber ≤ 95026236 := by decide
deriving DecidableEq

namespace Date

def ofDayNumber? (n : Int) : Option Date :=
  if h : -96465292 ≤ n ∧ n ≤ 95026236 then some ⟨n, h.1, h.2⟩ else none

def ofCivil? (c : Civil) : Option Date :=
  if c.Exists then ofDayNumber? c.dayNumber else none

def civil (d : Date) : Civil := Civil.ofDayNumber d.dayNumber

def chars (d : Date) : List Char := d.civil.chars

def text (d : Date) : String := String.ofList d.chars

def earliest : Date := { dayNumber := -96465292 }

def latest : Date := { dayNumber := 95026236 }

instance : Inhabited Date := ⟨{ dayNumber := 0 }⟩

instance : LE Date := ⟨fun a b ↦ a.dayNumber ≤ b.dayNumber⟩

instance : LT Date := ⟨fun a b ↦ a.dayNumber < b.dayNumber⟩

instance (a b : Date) : Decidable (a ≤ b) := inferInstanceAs (Decidable (a.dayNumber ≤ b.dayNumber))

instance (a b : Date) : Decidable (a < b) := inferInstanceAs (Decidable (a.dayNumber < b.dayNumber))

theorem ext_dayNumber {a b : Date} (h : a.dayNumber = b.dayNumber) : a = b := by
  obtain ⟨n, _, _⟩ := a
  obtain ⟨m, _, _⟩ := b
  simp only at h
  subst h
  rfl

end Date

end TieredRates
