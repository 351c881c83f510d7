import TieredRates.Decimal.Basic

namespace TieredRates.Decimal

open Text

def placePoint (scale : Nat) (ds : List Char) : List Char :=
  if scale = 0 then ds
  else ds.take (ds.length - scale) ++ '.' :: ds.drop (ds.length - scale)

def chars (d : Decimal) : List Char :=
  (if d.negative then ['-'] else []) ++ placePoint d.scale (padded (d.scale + 1) d.size)

def text (d : Decimal) : String := String.ofList d.chars

instance : ToString Decimal := ⟨text⟩

/-- Raises the size by one if the first digit left out is 5 or more. Should that fill the room, the
last place is given up. -/
def roundAt (size scale next : Nat) : Option (Nat × Nat) :=
  if next < 5 then some (size, scale)
  else if size + 1 < room then some (size + 1, scale)
  else if scale = 0 then none
  else some ((size + 5) / 10, scale - 1)

/-- Puts digits behind the point as long as there are places and room for them; the first one left
out rounds. -/
def addPlaces? (size scale : Nat) : List Char → Option (Nat × Nat)
  | [] => some (size, scale)
  | c :: ds =>
    if scale < maxScale ∧ 10 * size + digitValue c < room then
      addPlaces? (10 * size + digitValue c) (scale + 1) ds
    else roundAt size scale (digitValue c)

def isGrouped (s : List Char) : Bool :=
  (s.head?.any Char.isDigit) && s.all fun c ↦ c.isDigit || c = '_'

/-- Reads digits with at most one point in front of, among or behind them. Gives size and scale;
there must be room for the digits before the point, and the text is checked to its end, also behind
the digit that rounds. -/
def readSize? (s : List Char) : Option (Nat × Nat) :=
  let whole := s.takeWhile (· ≠ '.')
  let places := (s.dropWhile (· ≠ '.')).drop 1
  let size := value (whole.filter Char.isDigit)
  if isGrouped (whole ++ places) ∧ size < room then addPlaces? size 0 (places.filter Char.isDigit)
  else none

def splitSign : List Char → Bool × List Char
  | '-' :: s => (true, s)
  | '+' :: s => (false, s)
  | s => (false, s)

/-- A zero has no sign, whatever stands in front of it. -/
def readPlain? (s : List Char) : Option Decimal := do
  let (negative, ds) := splitSign s
  let (size, scale) ← readSize? ds
  ofSize? negative size scale

def readExponent? (s : List Char) : Option Nat :=
  let ds := match s with
    | '+' :: ds => ds
    | ds => ds
  if ds ≠ [] ∧ ds.all Char.isDigit ∧ value ds < 0x100000000 then some (value ds) else none

/-- Moves the point `n` places to the right, adding zeros only once there are no places left. -/
def shiftLeft? (d : Decimal) (n : Nat) : Option Decimal :=
  if n ≤ d.scale then ofParts? d.negative d.size (d.scale - n)
  else if n ≤ maxScale then ofParts? d.negative (d.size * tenTo (n - d.scale)) 0
  else none

def dropDigits (n size : Nat) : Nat := (2 * size + tenTo n) / (2 * tenTo n)

/-- Moves the point `n` places to the left. Places for which there is no room are rounded off, and
what is rounded to zero keeps its sign. -/
def shiftRight? (d : Decimal) (n : Nat) : Option Decimal :=
  if maxScale < n then none
  else if d.scale + n ≤ maxScale then ofParts? d.negative d.size (d.scale + n)
  else ofParts? d.negative (dropDigits (d.scale + n - maxScale) d.size) maxScale

def isExponentMark (c : Char) : Bool := c = 'e' ∨ c = 'E'

def readScientific? (s : List Char) : Option Decimal :=
  match s.dropWhile (!isExponentMark ·) with
  | [] => none
  | _ :: exponent => do
    let d ← readPlain? (s.takeWhile (!isExponentMark ·))
    match exponent with
    | '-' :: ds => (readExponent? ds).bind d.shiftRight?
    | ds => (readExponent? ds).bind d.shiftLeft?

def read? (s : List Char) : Option Decimal := readPlain? s <|> readScientific? s

def ofText? (s : String) : Option Decimal := read? s.toList

end TieredRates.Decimal
