import TieredRates.Calendar.DateText
import TieredRates.Json.Reader

namespace TieredRates

open Json Reader

def Date.ofAnyForm? (s : List Char) : Option Date :=
  let t := Text.trim s
  Calendar.readNamed? true t <|> Calendar.readNamed? false t <|> Calendar.readNumeric? t

structure Observation where
  date : Option String
  rate : Option Value
  /-- Counts where `rate` holds no positive number. -/
  fallbackRate : Option Value

namespace Observation

structure Parts where
  date : Option (Option String) := none
  rate : Option (Option Value) := none
  fallbackRate : Option (Option Value) := none

/-- How many arrays and objects a kept value may nest, inside the array and the observation. -/
def depth : Nat := 125

def fields : List (FieldReader Parts) := [
  .of "date" (optional text) Parts.date fun p a ↦ { p with date := some a },
  .of "rate" (anyValue depth) Parts.rate fun p a ↦ { p with rate := some a },
  .of "fallback_rate" (anyValue depth) Parts.fallbackRate fun p a ↦
    { p with fallbackRate := some a }]

def reader : Reader Observation := structured fields {} fun p ↦ .ok {
  date := p.date.getD none
  rate := p.rate.getD none
  fallbackRate := p.fallbackRate.getD none }

def listOfJson (s : String) : Except Fault (List Observation) := readWhole (list reader) s

def day? (o : Observation) : Option Date := o.date.bind fun s ↦ Date.ofAnyForm? s.toList

/-- The number a value holds. In a text, commas and white space at the ends do not count. -/
def number? : Value → Option Decimal
  | .number (.whole n) => Decimal.ofInt? n
  | .number (.binary negative size) =>
    Decimal.read? ((if negative then ['-'] else []) ++ size.compactChars)
  | .text s => Decimal.read? ((Text.trim s.toList).filter (· ≠ ','))
  | _ => none

def candidates (o : Observation) : List Decimal :=
  [o.rate, o.fallbackRate].filterMap (·.bind number?)

/-- The latest dated observation, of several on one day the last. -/
def latest? : List Observation → Option (Date × Observation)
  | [] => none
  | o :: os =>
    match latest? os, o.day? with
    | none, day => day.map fun d ↦ (d, o)
    | some found, none => some found
    | some found, some d => if found.1 < d then some (d, o) else some found

end Observation

inductive SelectionError where
  | empty
  | noDay (count : Nat)
  | missingRate (date : Date)
  | nonPositiveRate (date : Date) (rate : Decimal)
deriving DecidableEq

namespace SelectionError

def message : SelectionError → String
  | empty => "upstream returned no observations"
  | noDay count => s!"none of the {count} observations carries a parseable date"
  | missingRate date => s!"observation dated {date.text} has no numeric rate"
  | nonPositiveRate date rate => s!"observation dated {date.text} has non-positive rate {rate}"

end SelectionError

namespace Observation

def rate? (o : Observation) (date : Date) : Except SelectionError Decimal :=
  match o.candidates.find? fun d ↦ d.IsPositive, o.candidates with
  | some d, _ => .ok d
  | none, d :: _ => .error (.nonPositiveRate date d)
  | none, [] => .error (.missingRate date)

def select (os : List Observation) : Except SelectionError (Date × Decimal) :=
  match os, latest? os with
  | [], _ => .error .empty
  | _, none => .error (.noDay os.length)
  | _, some (date, o) => (o.rate? date).map fun rate ↦ (date, rate)

end Observation

end TieredRates
