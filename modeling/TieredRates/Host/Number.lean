import TieredRates.Power
import TieredRates.Text.Digits
import TieredRates.Text.Split

namespace TieredRates.Host

open Text

def inBase? (base : Nat) (s : List Char) : Option Nat :=
  s.foldlM (fun n c ↦ (hexValue? c).bind fun d ↦ if d < base then some (base * n + d) else none) 0

/-- A number: behind `0x` in base 16, where it may be empty, behind `0` in base 8, else in base
10. -/
def part? : List Char → Option Nat
  | [] => none
  | '0' :: 'x' :: s | '0' :: 'X' :: s => inBase? 16 s
  | '0' :: c :: s => inBase? 8 (c :: s)
  | s => inBase? 10 s

def dottedParts (s : List Char) : List (List Char) :=
  let parts := splitAll '.' s
  if parts.getLast? = some [] ∧ 1 < parts.length then parts.dropLast else parts

/-- Whether a name would be taken for a number: its last part is one or looks like one. -/
def endsInNumber (s : List Char) : Bool :=
  (dottedParts s).getLast?.any fun p ↦ (p ≠ [] && p.all Char.isDigit) || (part? p).isSome

/-- At most four numbers below 256. The last one fills the places of those that are missing. -/
def isDotted (s : List Char) : Bool :=
  match (dottedParts s).mapM part? with
  | none => false
  | some ns => ns.length ≤ 4 && ns.dropLast.all (· < 256) &&
      ns.getLast?.all fun n ↦ decide (n < twoTo (8 * (5 - ns.length)))

def isStrictlyDotted (s : List Char) : Bool :=
  let parts := splitAll '.' s
  parts.length = 4 && parts.all fun p ↦
    p ≠ [] && p.all Char.isDigit && decide (value p < 256) && (p = ['0'] || p.head? ≠ some '0')

def isGroup (s : List Char) : Bool :=
  0 < s.length && s.length ≤ 4 && s.all fun c ↦ (hexValue? c).isSome

/-- How many groups a text holds, if it holds nothing else. With `dotted`, four numbers may stand
for the last two. -/
def groups? (dotted : Bool) (s : List Char) : Option Nat :=
  let parts := splitAll ':' s
  if s = [] then some 0
  else if parts.all isGroup then some parts.length
  else if dotted ∧ parts.dropLast.all isGroup ∧ parts.getLast?.any isStrictlyDotted then
    some (parts.length + 1)
  else none

def splitGap : List Char → Option (List Char × List Char)
  | ':' :: ':' :: s => some ([], s)
  | c :: s => (splitGap s).map fun (front, back) ↦ (c :: front, back)
  | [] => none

/-- Eight groups, or fewer with a gap that stands for those that are missing. -/
def isGrouped (s : List Char) : Bool :=
  match splitGap s with
  | none => groups? true s = some 8
  | some (front, back) => match groups? false front, groups? true back with
    | some m, some n => m + n ≤ 7
    | _, _ => false

end TieredRates.Host
