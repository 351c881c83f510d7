import TieredRates.Feed.Address
import TieredRates.Table
import TieredRates.Text.Percent
import TieredRates.Tier.Source

namespace TieredRates

inductive Reply where
  | unreachable
  | dropped
  | answered (status : Nat) (body : String)
deriving DecidableEq

namespace Reply

def arrives : Reply → Bool
  | unreachable => false
  | _ => true

def rate : Reply → Except FetchFault (Date × Decimal)
  | unreachable | dropped => .error .noAnswer
  | answered status body =>
    if 200 ≤ status ∧ status < 300 then
      match Observation.listOfJson body with
      | .error _ => .error .payload
      | .ok os => (Observation.select os).mapError .selection
    else .error (.status status)

end Reply

/-- The feed of one currency, with the requests it has received, the last one first. -/
structure Feed where
  currency : CurrencyCode
  id : String
  /-- What its address has behind the host and its number. -/
  path : String
  key : Option String
  reply : Reply
  requests : List String
deriving DecidableEq

namespace Feed

def address? (f : Feed) : Option Address := do
  let a ← Address.ofText? f.path.toList
  return (f.key.map fun key ↦ a.withKey key.toList).getD a

def sendableAddress (f : Feed) : Except FetchFault Address :=
  match f.address? with
  | none => .error .badAddress
  | some a => match a.unsendable? with
    | some text => .error (.unsendable (String.ofList text))
    | none => .ok a

def record (f : Feed) (now : Instant) : Except FetchFault RateRecord := do
  let _ ← f.sendableAddress
  let (date, rate) ← f.reply.rate
  let r ← (RateRecord.make f.currency rate f.id now).mapError .domain
  return r.withObservedOn (some date)

def asked (f : Feed) : Feed :=
  match f.sendableAddress with
  | .ok a =>
    if f.reply.arrives then
      { f with requests := ("GET " ++ String.ofList a.target) :: f.requests }
    else f
  | .error _ => f

end Feed

inductive Provider where
  | fixed (name : String) (rates : Table CurrencyCode Decimal)
  /-- Records that are handed out as they are. -/
  | canned (name : String) (records : Table CurrencyCode RateRecord)
  | feed (f : Feed)

namespace Provider

def name : Provider → String
  | fixed name _ => name
  | canned name _ => name
  | feed f => f.id

def supports : Provider → CurrencyCode → Bool
  | fixed _ rates, c => (rates.get? c).isSome
  | canned _ records, c => (records.get? c).isSome
  | feed f, c => c = f.currency

def answer (p : Provider) (now : Instant) (c : CurrencyCode) : Except SourceError RateRecord :=
  match p with
  | fixed name rates => match rates.get? c with
    | some rate => (RateRecord.make c rate name now).mapError fun e ↦ .failed c (.domain e)
    | none => .error (.unconfigured c)
  | canned _ records => match records.get? c with
    | some r => .ok r
    | none => .error (.unconfigured c)
  | feed f =>
    if c = f.currency then (f.record now).mapError (.failed c) else .error (.unconfigured c)

def asked (p : Provider) (c : CurrencyCode) : Provider :=
  match p with
  | feed f => if c = f.currency then feed f.asked else p
  | p => p

/-- Rates for trying things out, in hundredths. -/
def developmentRates : List (String × Nat) := [("EUR", 92), ("GBP", 79), ("INR", 8312)]

def development : Provider :=
  fixed "fixed" (.ofList (developmentRates.filterMap fun (code, hundredths) ↦ do
    return (← CurrencyCode.parse? code, ← Decimal.ofParts? false hundredths 2)))

end Provider

/-- Providers in the order in which they are considered. -/
structure Registry where
  providers : List Provider

namespace Registry

def name : String := "registry"

def route? (g : Registry) (c : CurrencyCode) : Option Provider :=
  g.providers.find? (·.supports c)

def supports (g : Registry) (c : CurrencyCode) : Bool := (g.route? c).isSome

def answer (g : Registry) (now : Instant) (c : CurrencyCode) : Except SourceError RateRecord :=
  match g.route? c with
  | some p => p.answer now c
  | none => .error (.unconfigured c)

def askFirst (c : CurrencyCode) : List Provider → List Provider
  | [] => []
  | p :: ps => if p.supports c then p.asked c :: ps else p :: askFirst c ps

def asked (g : Registry) (c : CurrencyCode) : Registry := ⟨askFirst c g.providers⟩

instance : LiveSource Registry where
  fetch g now c := (g.answer now c, g.asked c)

end Registry

end TieredRates
