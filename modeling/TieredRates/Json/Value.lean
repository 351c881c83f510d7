import TieredRates.Json.Token

namespace TieredRates.Json

inductive Value where
  | null
  | bool (value : Bool)
  | number (n : Number)
  | text (s : String)
  | array (items : List Value)
  | object (members : List (String × Value))

instance : Inhabited Value := ⟨.null⟩

/-- How a value is taken. One that is kept has a limit on how deep it may go, and its texts and
numbers must be such; of one that is passed over only the form counts. -/
inductive Care where
  | keep (depth : Nat)
  | passOver

def Care.text? : Care → Option String → Option String
  | _, some s => some s
  | keep _, none => none
  | passOver, none => some ""

def Care.scalar? (care : Care) : Token → Option Value
  | .null => some .null
  | .bool b => some (.bool b)
  | .text s => (care.text? s).map .text
  | .number (some n) => some (.number n)
  | .number none => match care with
    | keep _ => none
    | passOver => some .null
  | _ => none

/-- An open array or object with what it holds so far, latest first. -/
inductive Frame where
  | array (items : List Value)
  | object (members : List (String × Value)) (name : String)

def Care.allows : Care → List Frame → Bool
  | keep depth, stack => stack.length < depth
  | passOver, _ => true

inductive Place where
  | value
  | firstItem
  | firstName
  | name
  | colon
  | next

inductive Progress where
  | go (place : Place) (stack : List Frame)
  | done (v : Value)
  | stuck

def finish (v : Value) : List Frame → Progress
  | [] => .done v
  | .array items :: fs => .go .next (.array (v :: items) :: fs)
  | .object members name :: fs => .go .next (.object ((name, v) :: members) name :: fs)

def enter (care : Care) (stack : List Frame) (t : Token) : Progress :=
  match t with
  | .openBracket => if care.allows stack then .go .firstItem (.array [] :: stack) else .stuck
  | .openBrace =>
    if care.allows stack then .go .firstName (.object [] "" :: stack) else .stuck
  | t => match care.scalar? t with
    | some v => finish v stack
    | none => .stuck

def enterMember (care : Care) : List Frame → Token → Progress
  | .object members _ :: fs, .text s => match care.text? s with
    | some name => .go .colon (.object members name :: fs)
    | none => .stuck
  | _, _ => .stuck

def advance (care : Care) : Place → List Frame → Token → Progress
  | .value, fs, t => enter care fs t
  | .firstItem, .array _ :: fs, .closeBracket => finish (.array []) fs
  | .firstItem, fs, t => enter care fs t
  | .firstName, .object _ _ :: fs, .closeBrace => finish (.object []) fs
  | .firstName, fs, t => enterMember care fs t
  | .name, fs, t => enterMember care fs t
  | .colon, fs, .colon => .go .value fs
  | .next, .array items :: fs, .comma => .go .value (.array items :: fs)
  | .next, .array items :: fs, .closeBracket => finish (.array items.reverse) fs
  | .next, .object members name :: fs, .comma => .go .name (.object members name :: fs)
  | .next, .object members _ :: fs, .closeBrace => finish (.object members.reverse) fs
  | _, _, _ => .stuck

def build? (care : Care) : Place → List Frame → List Token → Option (Value × List Token)
  | _, _, [] => none
  | place, stack, t :: ts => match advance care place stack t with
    | .go place stack => build? care place stack ts
    | .done v => some (v, ts)
    | .stuck => none

def value? (care : Care) (ts : List Token) : Option (Value × List Token) :=
  build? care .value [] ts

end TieredRates.Json
