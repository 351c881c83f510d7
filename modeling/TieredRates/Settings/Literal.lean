import TieredRates.Text.Digits

namespace TieredRates

open Text

inductive LiteralFault where
  | empty
  | digit
  | tooLarge
  | tooSmall
  | truth
deriving DecidableEq

namespace LiteralFault

def message : LiteralFault → String
  | empty => "cannot parse integer from empty string"
  | digit => "invalid digit found in string"
  | tooLarge => "number too large to fit in target type"
  | tooSmall => "number too small to fit in target type"
  | truth => "provided string was not `true` or `false`"

end LiteralFault

namespace Literal

/-- Reads digits as long as the number stays within `most`; the first character that breaks a rule
decides the fault. -/
def upTo (most : Nat) (beyond : LiteralFault) (n : Nat) : List Char → Except LiteralFault Nat
  | [] => .ok n
  | c :: s =>
    if c.isDigit then
      let next := 10 * n + digitValue c
      if next ≤ most then upTo most beyond next s else .error beyond
    else .error .digit

def magnitude (most : Nat) (beyond : LiteralFault) : List Char → Except LiteralFault Nat
  | [] => .error .digit
  | s => upTo most beyond 0 s

def natural (most : Nat) : List Char → Except LiteralFault Nat
  | [] => .error .empty
  | '+' :: s => magnitude most .tooLarge s
  | s => magnitude most .tooLarge s

def integer : List Char → Except LiteralFault Int
  | [] => .error .empty
  | '-' :: s => (magnitude 0x8000000000000000 .tooSmall s).map fun n ↦ -(n : Int)
  | '+' :: s => (magnitude 0x7fffffffffffffff .tooLarge s).map fun n ↦ (n : Int)
  | s => (magnitude 0x7fffffffffffffff .tooLarge s).map fun n ↦ (n : Int)

def truth (s : List Char) : Except LiteralFault Bool :=
  if s = "true".toList then .ok true
  else if s = "false".toList then .ok false
  else .error .truth

end Literal

end TieredRates
