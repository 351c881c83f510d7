import TieredRates.Calendar.DateText
import TieredRates.Calendar.Instant

namespace TieredRates.Calendar

open Text

/-- The fraction of a second, with as few groups of three digits as are exact. -/
def fractionChars (nano : Nat) : List Char :=
  let n := nano % 1000000000
  if n = 0 then []
  else if n % 1000000 = 0 then '.' :: padded 3 (n / 1000000)
  else if n % 1000 = 0 then '.' :: padded 6 (n / 1000)
  else '.' :: padded 9 n

/-- The time of day; a leap second is second 60. -/
def clockChars (t : Instant) : List Char :=
  padded 2 (t.second / 3600) ++ ':' :: padded 2 (t.second / 60 % 60) ++
    ':' :: padded 2 (t.second % 60 + t.nano / 1000000000) ++ fractionChars t.nano

def stamp (separator : Char) (zone : String) (t : Instant) : List Char :=
  t.date.chars ++ separator :: clockChars t ++ zone.toList

end Calendar

namespace Instant

open Text Calendar

def text (t : Instant) : String := String.ofList (stamp 'T' "Z" t)

def offsetText (t : Instant) : String := String.ofList (stamp 'T' "+00:00" t)

def display (t : Instant) : String := String.ofList (stamp ' ' " UTC" t)

end Instant

namespace Calendar

open Text

/-- A time of day; 60 as the second means the leap second after second 59. -/
structure ClockTime where
  hour : Nat
  minute : Nat
  second : Nat
  nano : Nat

def ClockTime.Exists (c : ClockTime) : Prop :=
  c.hour ≤ 23 ∧ c.minute ≤ 59 ∧ c.second ≤ 60 ∧ c.nano < 1000000000

instance (c : ClockTime) : Decidable c.Exists := inferInstanceAs (Decidable (_ ∧ _))

/-- The instant of a local date and time at an offset of `minutes` from universal time. -/
def instant? (date : Civil) (c : ClockTime) (minutes : Int) : Option Instant :=
  if hc : c.Exists then do
    let localDate ← Date.ofCivil? date
    let m : Int := localDate.dayNumber * 1440 + c.hour * 60 + c.minute - minutes
    let day ← Date.ofDayNumber? (m / 1440)
    let last := min c.second 59
    some {
      date := day
      second := (m % 1440).toNat * 60 + last
      nano := c.nano + (c.second - last) * 1000000000
      second_lt := by omega
      nano_lt := by
        have := hc.2.2
        omega
      leap_last := by
        have := hc.2.2
        omega }
  else none

def nanos (ds : List Char) : Nat :=
  value (ds.take 9 ++ List.replicate (9 - ds.length) '0')

def fraction? (s : List Char) : Option (Nat × List Char) :=
  match s with
  | '.' :: r =>
    match spanDigits r with
    | ([], _) => none
    | (ds, rest) => some (nanos ds, rest)
  | _ => some (0, s)

def twoDigits? : List Char → Option (Nat × List Char)
  | a :: b :: s =>
    if a.isDigit ∧ b.isDigit then some (10 * digitValue a + digitValue b, s) else none
  | _ => none

def offsetFrom? (skipSeparator : List Char → Option (List Char)) (negative : Bool)
    (s : List Char) : Option (Int × List Char) := do
  let (hours, s) ← twoDigits? s
  let (minutes, s) ← twoDigits? (← skipSeparator s)
  if hours ≤ 23 ∧ minutes ≤ 59 then
    let n : Int := hours * 60 + minutes
    return (if negative then -n else n, s)
  else none

def skipColons (s : List Char) : Option (List Char) :=
  some (s.dropWhile fun c ↦ c = ':' || isBlank c)

def looseOffset? (s : List Char) : Option (Int × List Char) :=
  if lower (s.take 3) = "utc".toList then some (0, s.drop 3)
  else match s with
    | 'Z' :: r | 'z' :: r => some (0, r)
    | '+' :: r => offsetFrom? skipColons false r
    | '-' :: r | '\u2212' :: r => offsetFrom? skipColons true r
    | _ => none

def afterT? : List Char → Option (List Char)
  | 'T' :: s | 't' :: s | ' ' :: s => some s
  | _ => none

/-- Reads an instant, with white space allowed between its parts and at both ends. -/
def readInstant? (s : List Char) : Option Instant := do
  let (date, s) ← looseCivil? s
  let (hour, s) ← field? (← afterT? s)
  let (minute, s) ← field? (← after? ':' (skipBlanks s))
  let (second, s) ← field? (← after? ':' (skipBlanks s))
  let (nano, s) ← fraction? s
  let (offset, s) ← looseOffset? (skipBlanks s)
  match skipBlanks s with
  | [] => instant? date { hour, minute, second, nano } offset
  | _ => none

def fourDigits? (s : List Char) : Option (Nat × List Char) := do
  let (a, s) ← twoDigits? s
  let (b, s) ← twoDigits? s
  return (100 * a + b, s)

def strictOffset? : List Char → Option (Int × List Char)
  | 'Z' :: s | 'z' :: s => some (0, s)
  | '+' :: s => offsetFrom? (after? ':') false s
  | '-' :: s | '\u2212' :: s => offsetFrom? (after? ':') true s
  | _ => none

/-- Reads an instant of the years 0 to 9999 with every field at its full width. -/
def readStrictInstant? (s : List Char) : Option Instant := do
  let (year, s) ← fourDigits? s
  let (month, s) ← twoDigits? (← after? '-' s)
  let (day, s) ← twoDigits? (← after? '-' s)
  let (hour, s) ← twoDigits? (← afterT? s)
  let (minute, s) ← twoDigits? (← after? ':' s)
  let (second, s) ← twoDigits? (← after? ':' s)
  let (nano, s) ← fraction? s
  let (offset, s) ← strictOffset? s
  match s with
  | [] => instant? { year, month, day } { hour, minute, second, nano } offset
  | _ => none

end Calendar

namespace Instant

def ofText? (s : String) : Option Instant := Calendar.readInstant? s.toList

end TieredRates.Instant
