import TieredRates.Binary64.Shortest

namespace TieredRates.Json

open Text

inductive Number where
  | whole (n : Int)
  | binary (negative : Bool) (size : Binary64)
deriving DecidableEq

structure Numeral where
  negative : Bool
  wholePart : List Char
  fraction : Option (List Char)
  exponent : Option Int

namespace Numeral

def digits? (s : List Char) : Option (List Char × List Char) :=
  match spanDigits s with
  | ([], _) => none
  | r => some r

def wholePart? (s : List Char) : Option (List Char × List Char) := do
  let (ds, rest) ← digits? s
  if ds.head? = some '0' ∧ ds.length ≠ 1 then none else return (ds, rest)

def fraction? : List Char → Option (Option (List Char) × List Char)
  | '.' :: s => (digits? s).map fun (ds, rest) ↦ (some ds, rest)
  | s => some (none, s)

def exponentSign : List Char → Bool × List Char
  | '-' :: s => (true, s)
  | '+' :: s => (false, s)
  | s => (false, s)

def exponent? : List Char → Option (Option Int)
  | [] => some none
  | c :: s =>
    if c = 'e' ∨ c = 'E' then
      match digits? (exponentSign s).2 with
      | some (ds, []) =>
        let n : Int := value ds
        some (some (if (exponentSign s).1 then -n else n))
      | _ => none
    else none

def ofChars? (s : List Char) : Option Numeral := do
  let (negative, s) := match s with
    | '-' :: r => (true, r)
    | r => (false, r)
  let (wholePart, s) ← wholePart? s
  let (fraction, s) ← fraction? s
  let exponent ← exponent? s
  return { negative, wholePart, fraction, exponent }

end Numeral

/-- Adds digits to a significand as long as it stays below 2 ^ 64. Gives it with the digits that
are left over. -/
def gather (significand : Nat) : List Char → Nat × List Char
  | [] => (significand, [])
  | c :: ds =>
    let next := 10 * significand + digitValue c
    if next < 0x10000000000000000 then gather next ds else (significand, c :: ds)

def scale? (x : Binary64) (e : Int) : Option Binary64 :=
  if 0 ≤ e then
    if x.significand = 0 then some x
    else if e ≤ 308 then x.mul? (.tenTo e.toNat) else none
  else x.div? (.tenTo e.natAbs)

def scaleDown? (x : Binary64) (e : Int) : Option Binary64 :=
  if h : e < -308 then
    if x.significand = 0 then some x
    else do scaleDown? (← x.div? (.tenTo 308)) (e + 308)
  else scale? x e
termination_by e.natAbs

def binary? (negative : Bool) (significand : Nat) (e : Int) : Option Number := do
  let x ← Binary64.ofNat? significand
  return .binary negative (← scaleDown? x e)

/-- What a numeral stands for; none if it is too large. A negative zero is binary. -/
def Number.ofNumeral? (n : Numeral) : Option Number :=
  let (significand, dropped) := gather 0 n.wholePart
  match n.fraction, n.exponent with
  | none, none =>
    if dropped ≠ [] then binary? n.negative significand dropped.length
    else if !n.negative then some (.whole significand)
    else if 0 < significand ∧ significand ≤ 0x8000000000000000 then some (.whole (-significand))
    else binary? true significand 0
  | fraction, exponent =>
    let ds := fraction.getD []
    let (significand, beyond) := gather significand ds
    let places : Int := (ds.length : Int) - beyond.length
    binary? n.negative significand (dropped.length - places + exponent.getD 0)

end TieredRates.Json
