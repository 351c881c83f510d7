import TieredRates.Decimal.Basic
import TieredRates.Rounding

namespace TieredRates.Decimal

def fits (size scale k : Nat) : Bool := scale ≤ maxScale + k && size / tenTo k < room

/-- Drops as few of the last digits as possible; none if there are not enough places to drop.
Rounding may fill the room, which costs one more place. -/
def reduce? (size scale : Nat) : Option (Nat × Nat) := do
  let k ← (List.range (scale + 1)).find? (fits size scale)
  let q := divRound size (tenTo k)
  if q < room then return (q, scale - k)
  else if scale - k = 0 then none
  else return (divRound q 10, scale - k - 1)

def oppositeSigns (a b : Decimal) : Bool := a.negative != b.negative

def IsShort (d : Decimal) : Prop := d.size < 0x100000000

instance (d : Decimal) : Decidable d.IsShort := inferInstanceAs (Decidable (_ < _))

/-- A product with zero is the plain zero. One of two short numbers that is rounded to zero has no
sign, and is the plain zero if it has nothing left in the places there are; with a longer number in
it, a product keeps its sign. -/
def mul? (a b : Decimal) : Option Decimal :=
  if a.size = 0 ∨ b.size = 0 then some zero
  else if a.IsShort ∧ b.IsShort then
    if 47 < a.scale + b.scale then some zero
    else do
      let (size, scale) ← reduce? (a.size * b.size) (a.scale + b.scale)
      ofSize? (oppositeSigns a b) size scale
  else do
    let (size, scale) ← reduce? (a.size * b.size) (a.scale + b.scale)
    ofParts? (oppositeSigns a b) size scale

end TieredRates.Decimal
