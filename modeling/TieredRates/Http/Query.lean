import TieredRates.Text.Percent
import TieredRates.Text.Quoted
import TieredRates.Wire.Message

namespace TieredRates

inductive QueryFault where
  | unknownChoice (field given : String) (names : List String)
  | notDecimal (field given : String)
  | duplicate (field : String)
  | missing (field : String)
deriving DecidableEq

namespace QueryFault

def ticked (s : String) : String := "`" ++ s ++ "`"

def detail : QueryFault → String
  | unknownChoice field given names => s!"{field}: unknown variant {ticked given}, expected " ++
      String.intercalate " or " (names.map ticked)
  | notDecimal field given => s!"{field}: invalid value: string {Text.quote given}, " ++
      "expected a Decimal type representing a fixed-point number"
  | duplicate field => "duplicate field " ++ ticked field
  | missing field => "missing field " ++ ticked field

def message (f : QueryFault) : String := "Failed to deserialize query string: " ++ f.detail

end QueryFault

structure QueryField (σ : Type) where
  name : String
  isSet : σ → Bool
  read : σ → String → Except QueryFault σ

namespace QueryField

variable {α σ : Type}

def choice (name : String) (names : List (String × α)) (get : σ → Option α)
    (set : σ → α → σ) : QueryField σ where
  name
  isSet s := (get s).isSome
  read s given := match names.lookup given with
    | some a => .ok (set s a)
    | none => .error (.unknownChoice name given (names.map (·.1)))

def decimal (name : String) (get : σ → Option Decimal) (set : σ → Decimal → σ) :
    QueryField σ where
  name
  isSet s := (get s).isSome
  read s given := match Decimal.ofText? given with
    | some d => .ok (set s d)
    | none => .error (.notDecimal name given)

def text (name : String) (get : σ → Option String) (set : σ → String → σ) : QueryField σ where
  name
  isSet s := (get s).isSome
  read s given := .ok (set s given)

/-- One pair: a field that is not set yet, or one of another name, which is passed over. -/
def readPair (fields : List (QueryField σ)) (s : σ) (pair : String × String) :
    Except QueryFault σ :=
  match fields.find? (·.name = pair.1) with
  | some f => if f.isSet s then .error (.duplicate f.name) else f.read s pair.2
  | none => .ok s

def readPairs (fields : List (QueryField σ)) (empty : σ) (query : List Char) :
    Except QueryFault σ :=
  (Text.queryPairs query).foldlM (readPair fields) empty

def required (name : String) : Option α → Except QueryFault α
  | some a => .ok a
  | none => .error (.missing name)

end QueryField

namespace RateQuery

def queryFields : List (QueryField Parts) :=
  [.choice "mode" Mode.names Parts.mode fun p a ↦ { p with mode := some a }]

def ofQuery (query : List Char) : Except QueryFault RateQuery := do
  let p ← QueryField.readPairs queryFields {} query
  return { mode := p.mode.getD default }

end RateQuery

namespace ConversionQuery

def queryFields : List (QueryField Parts) := [
  .decimal "amount" Parts.amount fun p a ↦ { p with amount := some a },
  .text "currency" Parts.currency fun p a ↦ { p with currency := some a },
  .choice "direction" Direction.names Parts.direction fun p a ↦ { p with direction := some a },
  .choice "mode" Mode.names Parts.mode fun p a ↦ { p with mode := some a }]

def ofQuery (query : List Char) : Except QueryFault ConversionQuery := do
  let p ← QueryField.readPairs queryFields {} query
  return {
    amount := ← QueryField.required "amount" p.amount
    currency := ← QueryField.required "currency" p.currency
    direction := p.direction.getD default
    mode := p.mode.getD default }

end ConversionQuery

end TieredRates
