import TieredRates.Binary64.Basic
import TieredRates.Text.Digits

namespace TieredRates.Binary64

open Text

/-- The number of digits of `m / n` in front of the point; for a number below one, zero or less by
the count of zeros behind the point. -/
def wholeDigits (m n : Nat) : Int :=
  if n ≤ m then (digits (m / n)).length
  else -(((List.range 400).find? fun k ↦ n ≤ m * TieredRates.tenTo (k + 1)).getD 0 : Nat)

inductive Half where
  | up
  | even
deriving DecidableEq

/-- The multiple of `10 ^ k` nearest to `x`, if it is nearer to `x` than to any other number of the
format: `x` stands at `4 * significand` in units of `2 ^ (exponent - 2)`, and its ends are the
midpoints towards its neighbours, which belong to it if the significand is even. -/
def nearestOnGrid? (half : Half) (x : Binary64) (k : Int) : Option Nat :=
  let step := TieredRates.tenTo k.toNat * twoTo (2 - x.exponent).toNat
  let unit := twoTo (x.exponent - 2).toNat * TieredRates.tenTo (-k).toNat
  let below := if x.significand = 0x10000000000000 ∧ -1074 < x.exponent then 1 else 2
  let low := (4 * x.significand - below) * unit
  let high := (4 * x.significand + 2) * unit
  let inside (c : Nat) : Bool :=
    if x.significand % 2 = 0 then low ≤ c * step && c * step ≤ high
    else low < c * step && c * step < high
  let value := 4 * x.significand * unit
  let c := value / step
  let lowerIn := inside c && 0 < c
  let upperIn := inside (c + 1)
  let stays := half = .even && c % 2 = 0
  let lowerNearer := 2 * (value % step) < step || (2 * (value % step) = step && stays)
  if lowerIn && (!upperIn || lowerNearer) then some c
  else if upperIn then some (c + 1)
  else none

/-- Significant digits and the count of them in front of the point (which may be negative). -/
structure Shortest where
  digits : List Char
  point : Int

def shortest (half : Half) (x : Binary64) : Shortest :=
  if x.significand = 0 then ⟨['0'], 1⟩
  else
    let whole := wholeDigits (x.significand * twoTo x.exponent.toNat) (twoTo (-x.exponent).toNat)
    let found := (List.range 17).findSome? fun n : Nat ↦
      let k := whole - n - 1
      (nearestOnGrid? half x k).map fun c ↦ (c, k)
    let (c, k) := found.getD (0, 0)
    let ds := digits c
    ⟨(ds.reverse.dropWhile (· = '0')).reverse, ds.length + k⟩

def Shortest.positional (s : Shortest) (tail : List Char) : List Char :=
  if s.point ≤ 0 then '0' :: '.' :: List.replicate (-s.point).toNat '0' ++ s.digits
  else if s.digits.length ≤ s.point.toNat then
    s.digits ++ List.replicate (s.point.toNat - s.digits.length) '0' ++ tail
  else s.digits.take s.point.toNat ++ '.' :: s.digits.drop s.point.toNat

/-- Never an exponent, and no point in a whole number; a half goes up. -/
def plainChars (x : Binary64) : List Char := (x.shortest .up).positional []

/-- At most 16 digits in front of the point and four zeros behind it, a whole number with `.0`;
everything else as one digit, the others behind the point, and an exponent. A half goes to the even
digit. -/
def compactChars (x : Binary64) : List Char :=
  let s := x.shortest .even
  if -5 < s.point ∧ s.point ≤ 16 then s.positional ['.', '0']
  else
    let e := s.point - 1
    let exponent := 'e' :: (if e < 0 then ['-'] else []) ++ digits e.natAbs
    match s.digits with
    | [d] => d :: exponent
    | ds => ds.take 1 ++ '.' :: ds.drop 1 ++ exponent

end TieredRates.Binary64
