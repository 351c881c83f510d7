import TieredRates.Wire.Record

namespace TieredRates

open Json Reader

namespace CurrencyCode

def cacheKey (c : CurrencyCode) : String := "rate:" ++ c.text

end CurrencyCode

structure Payload where
  rate : Decimal
  capturedAt : Instant
  provider : String

namespace Payload

structure Parts where
  rate : Option Decimal := none
  capturedAt : Option Instant := none
  provider : Option String := none

def fields : List (FieldReader Parts) := [
  .of "rate" decimal Parts.rate fun p a ↦ { p with rate := some a },
  .of "captured_at" instant Parts.capturedAt fun p a ↦ { p with capturedAt := some a },
  .of "provider" text Parts.provider fun p a ↦ { p with provider := some a }]

def reader : Reader Payload := structured fields {} fun p ↦ do
  return {
    rate := ← orMalformed p.rate
    capturedAt := ← orMalformed p.capturedAt
    provider := ← orMalformed p.provider }

def encode (r : RateRecord) : String :=
  String.ofList (objectChars [("rate", textChars r.rate.text),
    ("captured_at", textChars r.capturedAt.text), ("provider", textChars r.provider)])

def decode (c : CurrencyCode) (s : String) : Except Fault RateRecord := do
  let p ← readWhole reader s
  (RateRecord.make c p.rate p.provider p.capturedAt).mapError .domain

end Payload

end TieredRates
