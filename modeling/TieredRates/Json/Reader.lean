import TieredRates.Calendar.Timestamp
import TieredRates.Json.Position
import TieredRates.Json.Value
import TieredRates.Record
import TieredRates.Table

namespace TieredRates.Json

inductive Fault where
  | malformed
  | domain (e : DomainError)
deriving DecidableEq

/-- Faults of form are not told apart, and no fault shows where it is. -/
def Fault.message : Fault → String
  | malformed => "<detail>"
  | domain e => String.ofList (withoutPosition e.message.toList)

/-- A reader takes its tokens off the front of a text's tokens, so of several faults the first one
in the text is reported. -/
abbrev Reader (α : Type) := List Token → Except Fault (α × List Token)

def readWhole {α : Type} (reader : Reader α) (s : String) : Except Fault α :=
  match reader (tokens s.toList) with
  | .ok (a, []) => .ok a
  | .ok _ => .error .malformed
  | .error e => .error e

namespace Reader

variable {α β σ : Type}

def andThen (reader : Reader α) (f : α → Except Fault β) : Reader β := fun ts ↦
  match reader ts with
  | .ok (a, rest) => (f a).map fun b ↦ (b, rest)
  | .error e => .error e

def expect (t : Token) : Reader Unit
  | u :: ts => if u = t then .ok ((), ts) else .error .malformed
  | [] => .error .malformed

def orMalformed : Option α → Except Fault α
  | some a => .ok a
  | none => .error .malformed

def text : Reader String
  | .text (some s) :: ts => .ok (s, ts)
  | _ => .error .malformed

def currency : Reader CurrencyCode :=
  text.andThen fun s ↦ (CurrencyCode.parse s).mapError .domain

def decimal : Reader Decimal
  | .text (some s) :: ts => (orMalformed (Decimal.ofText? s)).map fun d ↦ (d, ts)
  | .number (some (.whole n)) :: ts => (orMalformed (Decimal.ofInt? n)).map fun d ↦ (d, ts)
  | .number (some (.binary negative size)) :: ts =>
    let chars := (if negative then ['-'] else []) ++ size.plainChars
    (orMalformed (Decimal.readPlain? chars)).map fun d ↦ (d, ts)
  | _ => .error .malformed

def instant : Reader Instant := text.andThen fun s ↦ orMalformed (Instant.ofText? s)

def date : Reader Date := text.andThen fun s ↦ orMalformed (Calendar.readLoose? s.toList)

def optional (reader : Reader α) : Reader (Option α)
  | .null :: ts => .ok (none, ts)
  | ts => reader.andThen (fun a ↦ .ok (some a)) ts

/-- A value of any kind that is kept, no deeper than `depth`; nothing for `null`. -/
def anyValue (depth : Nat) : Reader (Option Value) :=
  optional fun ts ↦ orMalformed (value? (.keep depth) ts)

/-- One of a few names, as a text or as the only member of an object, with nothing in it. -/
def choice (names : List (String × α)) : Reader α
  | .openBrace :: .text (some s) :: .colon :: .null :: .closeBrace :: ts =>
    (orMalformed (names.lookup s)).map fun a ↦ (a, ts)
  | ts => text.andThen (fun s ↦ orMalformed (names.lookup s)) ts

structure FieldReader (σ : Type) where
  name : String
  isSet : σ → Bool
  read : σ → Reader σ

def FieldReader.of (name : String) (reader : Reader α) (get : σ → Option α) (set : σ → α → σ) :
    FieldReader σ where
  name
  isSet s := (get s).isSome
  read s := reader.andThen fun a ↦ .ok (set s a)

/-- One member: a field that is not set yet, or one of another name, which is passed over. -/
def member (fields : List (FieldReader σ)) (s : σ) : Reader σ := fun ts ↦ do
  let (name, ts) ← text ts
  match fields.find? (·.name = name) with
  | some f =>
    if f.isSet s then .error .malformed
    else
      let (_, ts) ← expect .colon ts
      f.read s ts
  | none =>
    let (_, ts) ← expect .colon ts
    let (_, ts) ← orMalformed (value? .passOver ts)
    return (s, ts)

/-- Members up to the closing brace, at most as many as the bound has tokens. -/
def members (fields : List (FieldReader σ)) : List Token → σ → Reader σ
  | [], _, _ => .error .malformed
  | _ :: bound, s, ts => do
    let (s, ts) ← member fields s ts
    match ts with
    | .comma :: ts => members fields bound s ts
    | .closeBrace :: ts => return (s, ts)
    | _ => .error .malformed

/-- Items in the order of the fields up to the closing bracket; the last ones may be left out. -/
def items : List (FieldReader σ) → Bool → σ → Reader σ
  | _, _, s, .closeBracket :: ts => .ok (s, ts)
  | f :: fields, first, s, ts => do
    let (_, ts) ← if first then .ok ((), ts) else expect .comma ts
    let (s, ts) ← f.read s ts
    items fields false s ts
  | [], _, _, _ => .error .malformed

/-- A structure: an object, or an array of its fields in order. -/
def structured (fields : List (FieldReader σ)) (empty : σ) (assemble : σ → Except Fault α) :
    Reader α :=
  andThen (fun
    | .openBrace :: .closeBrace :: ts => .ok (empty, ts)
    | .openBrace :: ts => members fields ts empty ts
    | .openBracket :: ts => items fields true empty ts
    | _ => .error .malformed) assemble

def listItems (reader : Reader α) : List Token → List α → Reader (List α)
  | [], _, _ => .error .malformed
  | _ :: bound, as, ts => do
    let (a, ts) ← reader ts
    match ts with
    | .comma :: ts => listItems reader bound (a :: as) ts
    | .closeBracket :: ts => return (a :: as, ts)
    | _ => .error .malformed

def list (reader : Reader α) : Reader (List α)
  | .openBracket :: .closeBracket :: ts => .ok ([], ts)
  | .openBracket :: ts => (listItems reader ts [] ts).map fun (as, rest) ↦ (as.reverse, rest)
  | _ => .error .malformed

/-- Members whose names are currencies, at most as many as the bound has tokens. A later one
replaces an earlier one. -/
def tableMembers (reader : Reader α) :
    List Token → Table CurrencyCode α → Reader (Table CurrencyCode α)
  | [], _, _ => .error .malformed
  | _ :: bound, t, ts => do
    let (c, ts) ← currency ts
    let (_, ts) ← expect .colon ts
    let (a, ts) ← reader ts
    match ts with
    | .comma :: ts => tableMembers reader bound (t.insert c a) ts
    | .closeBrace :: ts => return (t.insert c a, ts)
    | _ => .error .malformed

def table (reader : Reader α) : Reader (Table CurrencyCode α)
  | .openBrace :: .closeBrace :: ts => .ok (∅, ts)
  | .openBrace :: ts => tableMembers reader ts ∅ ts
  | _ => .error .malformed

end Reader

end TieredRates.Json
