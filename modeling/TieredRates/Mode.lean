import TieredRates.Text.Blank

namespace TieredRates

/-- How much a caller insists on where a rate comes from and how old it is. -/
inductive Mode where
  | strict
  | nonStrict
deriving DecidableEq

namespace Mode

instance : Inhabited Mode := ⟨nonStrict⟩

def isStrict (m : Mode) : Bool := m = strict

def text : Mode → String
  | strict => "strict"
  | nonStrict => "non-strict"

def ofText? (s : String) : Option Mode :=
  match String.ofList (Text.lower (Text.trim s.toList)) with
  | "strict" => some strict
  | "non-strict" | "non_strict" | "nonstrict" => some nonStrict
  | _ => none

def refusal (s : String) : String := "Unknown consistency mode: " ++ s

end Mode

end TieredRates
