import TieredRates.Json.Reader
import TieredRates.Json.Writer

namespace TieredRates.RateRecord

open Json Reader

structure Parts where
  base : Option String := none
  target : Option CurrencyCode := none
  rate : Option Decimal := none
  capturedAt : Option Instant := none
  provider : Option String := none
  observedOn : Option (Option Date) := none

def fields : List (FieldReader Parts) := [
  .of "base_currency" text Parts.base fun p a ↦ { p with base := some a },
  .of "target_currency" currency Parts.target fun p a ↦ { p with target := some a },
  .of "rate" decimal Parts.rate fun p a ↦ { p with rate := some a },
  .of "captured_at" instant Parts.capturedAt fun p a ↦ { p with capturedAt := some a },
  .of "provider" text Parts.provider fun p a ↦ { p with provider := some a },
  .of "observed_on" (optional date) Parts.observedOn fun p a ↦ { p with observedOn := some a }]

/-- Whether a text spells the base currency, in any case of its letters. -/
def namesBase (s : String) : Bool := Text.upper s.toList = CurrencyCode.usd.chars

def Parts.assemble (p : Parts) : Except Fault RateRecord := do
  let target ← orMalformed p.target
  let rate ← orMalformed p.rate
  let capturedAt ← orMalformed p.capturedAt
  let provider ← orMalformed p.provider
  let base := p.base.getD CurrencyCode.usd.text
  if namesBase base then
    let r ← (RateRecord.make target rate provider capturedAt).mapError .domain
    return r.withObservedOn (p.observedOn.getD none)
  else .error (.domain (.unsupportedBase base))

def reader : Reader RateRecord := structured fields {} Parts.assemble

def ofJson (s : String) : Except Fault RateRecord := readWhole reader s

def jsonMembers (r : RateRecord) : List (String × List Char) :=
  [("base_currency", textChars CurrencyCode.usd.text),
    ("target_currency", textChars r.target.text),
    ("rate", textChars r.rate.text),
    ("captured_at", textChars r.capturedAt.text),
    ("provider", textChars r.provider)] ++
  match r.observedOn with
  | some d => [("observed_on", textChars d.text)]
  | none => []

def toJson (r : RateRecord) : String := String.ofList (objectChars r.jsonMembers)

end TieredRates.RateRecord
