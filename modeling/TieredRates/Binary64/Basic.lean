import TieredRates.Power
import TieredRates.Rounding

namespace TieredRates

/-- The number `significand * 2 ^ exponent`, of 53 binary digits at most and with an exponent from
-1074 to 971. -/
structure Binary64 where
  significand : Nat
  exponent : Int
deriving DecidableEq

namespace Binary64

def zero : Binary64 := ⟨0, -1074⟩

def log2Ratio (m n : Nat) : Int :=
  let e : Int := m.log2 - n.log2
  if n * twoTo e.toNat ≤ m * twoTo (-e).toNat then e else e - 1

/-- The number nearest to `m / n * 2 ^ e`, the even one of two; none if that is too large. -/
def round? (m n : Nat) (e : Int) : Option Binary64 :=
  if m = 0 then some zero
  else
    let q := max (-1074) (log2Ratio m n + e - 52)
    let s := divRound (m * twoTo (e - q).toNat) (n * twoTo (q - e).toNat)
    -- rounding may carry over into one more digit
    let x : Binary64 := if s = 0x20000000000000 then ⟨0x10000000000000, q + 1⟩ else ⟨s, q⟩
    if x.exponent ≤ 971 then some x else none

def ofNat? (n : Nat) : Option Binary64 := round? n 1 0

def mul? (x y : Binary64) : Option Binary64 :=
  round? (x.significand * y.significand) 1 (x.exponent + y.exponent)

def div? (x y : Binary64) : Option Binary64 :=
  round? x.significand y.significand (x.exponent - y.exponent)

def tenTo (n : Nat) : Binary64 := (ofNat? (TieredRates.tenTo n)).getD zero

end Binary64

end TieredRates
