import TieredRates.Power
import TieredRates.Text.Digits

namespace TieredRates

/-- A sign, a size below 2 ^ 96 and a scale of at most 28 places. The scale and the sign are part of
the number: `1.5` and `1.50` are two numbers of one value, and a negative number that was rounded
away is a zero that still has its minus. -/
structure Decimal where
  negative : Bool
  size : Nat
  scale : Nat
  size_lt : size < 0x1000000000000000000000000 := by decide
  scale_le : scale ≤ 28 := by decide
deriving DecidableEq

namespace Decimal

/-- The first size that no number reaches. -/
def room : Nat := 0x1000000000000000000000000

def maxScale : Nat := 28

def zero : Decimal := { negative := false, size := 0, scale := 0 }

def one : Decimal := { negative := false, size := 1, scale := 0 }

instance : Inhabited Decimal := ⟨zero⟩

def coefficient (d : Decimal) : Int := if d.negative then -(d.size : Int) else d.size

def IsPositive (d : Decimal) : Prop := 0 < d.coefficient

instance (d : Decimal) : Decidable d.IsPositive := inferInstanceAs (Decidable (0 < d.coefficient))

def ofParts? (negative : Bool) (size scale : Nat) : Option Decimal :=
  if h : size < 0x1000000000000000000000000 ∧ scale ≤ 28 then
    some { negative, size, scale, size_lt := h.1, scale_le := h.2 }
  else none

/-- The number with these parts, if there is room for it. A zero loses its sign. -/
def ofSize? (negative : Bool) (size scale : Nat) : Option Decimal :=
  ofParts? (negative && size != 0) size scale

def ofInt? (n : Int) : Option Decimal := ofSize? (n < 0) n.natAbs 0

/-- Two numbers have one value if they agree at a common scale. -/
def SameValue (a b : Decimal) : Prop :=
  a.coefficient * tenTo b.scale = b.coefficient * tenTo a.scale

instance (a b : Decimal) : Decidable (SameValue a b) := inferInstanceAs (Decidable (_ = _))

theorem one_isPositive : one.IsPositive := by decide

@[simp] theorem natAbs_coefficient (d : Decimal) : d.coefficient.natAbs = d.size := by
  rw [coefficient]
  split <;> omega

theorem coefficient_eq_zero_iff {d : Decimal} : d.coefficient = 0 ↔ d.size = 0 := by
  rw [← natAbs_coefficient, Int.natAbs_eq_zero]

theorem isPositive_iff {d : Decimal} : d.IsPositive ↔ d.negative = false ∧ 0 < d.size := by
  rw [IsPositive, coefficient]
  cases d.negative <;> simp

theorem IsPositive.size_pos {d : Decimal} (h : d.IsPositive) : 0 < d.size := (isPositive_iff.1 h).2

theorem ofParts?_self (d : Decimal) : ofParts? d.negative d.size d.scale = some d :=
  dif_pos ⟨d.size_lt, d.scale_le⟩

end Decimal

end TieredRates
