import TieredRates.Calendar.Date

namespace TieredRates

namespace Span

/-- Lengths of time are whole nanoseconds, negative for the past. -/
def ofSeconds (n : Int) : Int := n * 1000000000

def ofMillis (n : Int) : Int := n * 1000000

/-- Whole milliseconds, towards zero. -/
def toMillis (span : Int) : Int := Int.tdiv span 1000000

def toSeconds (span : Int) : Int := Int.tdiv span 1000000000

end Span

structure Instant where
  date : Date
  second : Nat
  /-- The nanosecond of that second, counted on from 10 ^ 9 in a leap second behind it. -/
  nano : Nat
  second_lt : second < 86400 := by decide
  nano_lt : nano < 2000000000 := by decide
  leap_last : 1000000000 ≤ nano → second % 60 = 59 := by decide
deriving DecidableEq

namespace Instant

instance : Inhabited Instant := ⟨{ date := default, second := 0, nano := 0 }⟩

def IsLeap (t : Instant) : Prop := 1000000000 ≤ t.nano

instance (t : Instant) : Decidable t.IsLeap := inferInstanceAs (Decidable (_ ≤ _))

def Before (t u : Instant) : Prop :=
  t.date.dayNumber < u.date.dayNumber ∨
    t.date.dayNumber = u.date.dayNumber ∧
      (t.second < u.second ∨ t.second = u.second ∧ t.nano < u.nano)

instance : LT Instant := ⟨Before⟩

instance : LE Instant := ⟨fun t u ↦ ¬ Before u t⟩

instance (t u : Instant) : Decidable (Before t u) := inferInstanceAs (Decidable (_ ∨ _))

instance (t u : Instant) : Decidable (t < u) := inferInstanceAs (Decidable (Before t u))

instance (t u : Instant) : Decidable (t ≤ u) := inferInstanceAs (Decidable (¬ Before u t))

/-- A leap second lies between two times of day if one of them is in it. -/
def leapBetween (t u : Instant) : Int :=
  if u.second < t.second ∧ u.IsLeap then 1
  else if t.second < u.second ∧ t.IsLeap then -1
  else 0

/-- The time from `u` to `t`: whole days, and the difference of the times of day. -/
def since (t u : Instant) : Int :=
  (t.date.dayNumber - u.date.dayNumber) * 86400000000000 +
    ((t.second : Int) - u.second + leapBetween t u) * 1000000000 + ((t.nano : Int) - u.nano)

/-- The instant that is `n` nanoseconds from 1970-01-01T00:00:00, no leap seconds counted. -/
def ofNanos? (n : Int) : Option Instant :=
  (Date.ofDayNumber? (n / 86400000000000)).map fun date ↦ {
    date
    second := (n % 86400000000000 / 1000000000).toNat
    nano := (n % 1000000000).toNat
    second_lt := by omega
    nano_lt := by omega
    leap_last := by omega }

/-- Nanoseconds from 1970-01-01T00:00:00, a leap second taken as the second after it. -/
def toNanos (t : Instant) : Int :=
  t.date.dayNumber * 86400000000000 + t.second * 1000000000 + t.nano

def earliest : Instant := { date := Date.earliest, second := 0, nano := 0 }

def latest : Instant := { date := Date.latest, second := 86399, nano := 999999999 }

/-- Moves an instant. One in a leap second stays in it if the move is that short; a longer one
leaves through the nearer end, and the leap second is not counted. -/
def plus? (t : Instant) (s : Int) : Option Instant :=
  if h : t.IsLeap then
    if hs : -1000000000 < s ∧ s < 1000000000 ∧ t.nano + s < 2000000000 then
      some { t with
        nano := (t.nano + s).toNat
        nano_lt := by omega
        leap_last := fun _ ↦ t.leap_last h }
    else if 0 < s then ofNanos? (t.toNanos - 1000000000 + s)
    else ofNanos? (t.toNanos + s)
  else ofNanos? (t.toNanos + s)

/-- Moves an instant. Past an end of the calendar there is none, and that end stands for it. -/
def plus (t : Instant) (s : Int) : Instant :=
  (t.plus? s).getD (if s < 0 then earliest else latest)

end Instant

end TieredRates
