import TieredRates.Text.Blank
import TieredRates.Calendar.Date

namespace TieredRates.Calendar

open Text

def number? (most : Nat) (s : List Char) : Option (Nat × List Char) :=
  match takeDigits most s with
  | ([], _) => none
  | (ds, rest) => some (value ds, rest)

def field? (s : List Char) : Option (Nat × List Char) := number? 2 (skipBlanks s)

/-- White space and then a year: up to four digits, or a sign and any number of them. -/
def year? (s : List Char) : Option (Int × List Char) :=
  match skipBlanks s with
  | '-' :: r => (number? r.length r).map fun (n, rest) ↦ (-(n : Int), rest)
  | '+' :: r => (number? r.length r).map fun (n, rest) ↦ ((n : Int), rest)
  | r => (number? 4 r).map fun (n, rest) ↦ ((n : Int), rest)

def after? (c : Char) : List Char → Option (List Char)
  | d :: s => if d = c then some s else none
  | [] => none

def monthNames : List (String × String) :=
  [("jan", "uary"), ("feb", "ruary"), ("mar", "ch"), ("apr", "il"), ("may", ""), ("jun", "e"),
    ("jul", "y"), ("aug", "ust"), ("sep", "tember"), ("oct", "ober"), ("nov", "ember"),
    ("dec", "ember")]

def afterName? (name : String) (s : List Char) : Option (List Char) :=
  if lower (s.take name.length) = name.toList then some (s.drop name.length) else none

def monthFrom? (long : Bool) (month : Nat) (s : List Char) :
    List (String × String) → Option (Nat × List Char)
  | [] => none
  | (short, tail) :: names =>
    match afterName? short s with
    | some rest => some (month, if long then (afterName? tail rest).getD rest else rest)
    | none => monthFrom? long (month + 1) s names

def month? (long : Bool) (s : List Char) : Option (Nat × List Char) :=
  monthFrom? long 1 s monthNames

def whole? (r : Option (Civil × List Char)) : Option Date :=
  match r with
  | some (c, []) => Date.ofCivil? c
  | _ => none

/-- `February-18-2026`, or `Feb-18-2026` if `long` is false. -/
def readNamed? (long : Bool) (s : List Char) : Option Date :=
  whole? do
    let (month, s) ← month? long s
    let (day, s) ← field? (← after? '-' s)
    let (year, s) ← year? (← after? '-' s)
    return ({ year, month, day }, s)

def readNumeric? (s : List Char) : Option Date :=
  whole? do
    let (year, s) ← year? s
    let (month, s) ← field? (← after? '-' s)
    let (day, s) ← field? (← after? '-' s)
    return ({ year, month, day }, s)

/-- Year, month and day, with white space allowed in front of each part and each dash. -/
def looseCivil? (s : List Char) : Option (Civil × List Char) := do
  let (year, s) ← year? s
  let (month, s) ← field? (← after? '-' (skipBlanks s))
  let (day, s) ← field? (← after? '-' (skipBlanks s))
  return ({ year, month, day }, s)

def readLoose? (s : List Char) : Option Date :=
  whole? do
    let (c, s) ← looseCivil? s
    return (c, skipBlanks s)

end TieredRates.Calendar
