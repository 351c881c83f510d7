import TieredRates.Host.Bidi
import TieredRates.Host.Composition
import TieredRates.Host.Joining
import TieredRates.Host.Mapping
import TieredRates.Host.Punycode
import TieredRates.Text.Split

namespace TieredRates.Host

open Text

def isBarred (c : Char) : Bool := c.toNat ≤ 0x20 || c.toNat = 0x7f || c ∈ "%#/:<>?@[\\]^|".toList

def isAscii (c : Char) : Bool := c.toNat < 128

def aceMark : List Char := "xn--".toList

/-- Whether the first character in one direction that is not transparent joins back to where one
came from. -/
def meets (joins : Char → Bool) (s : List Char) : Bool :=
  (s.find? fun c ↦ joins c || !isTransparent c).any joins

/-- Whether the invisible joiners have their reason: they stand behind a sign that ends a consonant,
or the one that separates stands between characters that would join. `front` is what stands in front
of the text, in reverse. -/
def joinersFit (front : List Char) : List Char → Bool
  | [] => true
  | c :: s =>
    let behindSign := front.head?.any isVirama
    let fits :=
      if c.toNat = 0x200d then behindSign
      else if c.toNat = 0x200c then
        behindSign || (meets joinsNext front && meets joinsPrevious s)
      else true
    fits && joinersFit (c :: front) s

/-- The label that a label in its common form stands for. One that is marked has to stand for a
label that is in its common form already and not in ASCII. -/
def unmarked? (label : List Char) : Option (List Char) :=
  match behind? aceMark label with
  | none => some label
  | some rest => do
    if !rest.all isAscii ∨ 2000 < rest.length then none
    let s ← Punycode.decode? rest
    if s.all isAscii then none
    else if s.all (fun c ↦ mapped? c = some [c]) ∧ composedForm s = s then some s
    else none

def isSound (label : List Char) : Bool :=
  !label.head?.any isMark && joinersFit [] label && !label.any isBarred &&
    (label.all isAscii || label.length ≤ 1000)

def marked (label : List Char) : List Char :=
  if label.all isAscii then label else aceMark ++ Punycode.encode label

def nameInAscii? (s : List Char) : Option (List Char) := do
  let mapped ← s.mapM mapped?
  let labels ← (splitAll '.' (composedForm mapped.flatten)).mapM unmarked?
  if labels.all isSound ∧ directionsAgree labels then
    return ['.'].intercalate (labels.map marked)
  else none

end TieredRates.Host
