import TieredRates.Direction
import TieredRates.Json.Reader
import TieredRates.Json.Writer
import TieredRates.Mode

namespace TieredRates

open Json Reader

namespace Direction

def reader : Reader Direction := choice names

end Direction

namespace Mode

def names : List (String × Mode) := [("strict", strict), ("non-strict", nonStrict)]

def reader : Reader Mode := choice names

end Mode

structure RateQuery where
  mode : Mode := default

namespace RateQuery

structure Parts where
  mode : Option Mode := none

def fields : List (FieldReader Parts) :=
  [.of "mode" Mode.reader Parts.mode fun p a ↦ { p with mode := some a }]

def reader : Reader RateQuery := structured fields {} fun p ↦ .ok { mode := p.mode.getD default }

def jsonMembers (q : RateQuery) : List (String × List Char) := [("mode", textChars q.mode.text)]

end RateQuery

structure RateResponse where
  base : CurrencyCode
  currency : CurrencyCode
  rate : Decimal
  mode : Mode

namespace RateResponse

structure Parts where
  base : Option CurrencyCode := none
  currency : Option CurrencyCode := none
  rate : Option Decimal := none
  mode : Option Mode := none

def fields : List (FieldReader Parts) := [
  .of "base" Reader.currency Parts.base fun p a ↦ { p with base := some a },
  .of "currency" Reader.currency Parts.currency fun p a ↦ { p with currency := some a },
  .of "rate" decimal Parts.rate fun p a ↦ { p with rate := some a },
  .of "mode" Mode.reader Parts.mode fun p a ↦ { p with mode := some a }]

def reader : Reader RateResponse := structured fields {} fun p ↦ do
  return {
    base := ← orMalformed p.base
    currency := ← orMalformed p.currency
    rate := ← orMalformed p.rate
    mode := ← orMalformed p.mode }

def jsonMembers (r : RateResponse) : List (String × List Char) :=
  [("base", textChars r.base.text), ("currency", textChars r.currency.text),
    ("rate", textChars r.rate.text), ("mode", textChars r.mode.text)]

end RateResponse

structure RateListing where
  rates : Table CurrencyCode Decimal

namespace RateListing

structure Parts where
  rates : Option (Table CurrencyCode Decimal) := none

def fields : List (FieldReader Parts) :=
  [.of "rates" (table decimal) Parts.rates fun p a ↦ { p with rates := some a }]

def reader : Reader RateListing := structured fields {} fun p ↦ do
  return { rates := ← orMalformed p.rates }

def jsonMembers (l : RateListing) : List (String × List Char) :=
  [("rates", objectChars (l.rates.entries.map fun e ↦ (e.1.text, textChars e.2.text)))]

end RateListing

structure ConversionQuery where
  amount : Decimal
  currency : String
  direction : Direction := default
  mode : Mode := default

namespace ConversionQuery

structure Parts where
  amount : Option Decimal := none
  currency : Option String := none
  direction : Option Direction := none
  mode : Option Mode := none

def fields : List (FieldReader Parts) := [
  .of "amount" decimal Parts.amount fun p a ↦ { p with amount := some a },
  .of "currency" Reader.text Parts.currency fun p a ↦ { p with currency := some a },
  .of "direction" Direction.reader Parts.direction fun p a ↦ { p with direction := some a },
  .of "mode" Mode.reader Parts.mode fun p a ↦ { p with mode := some a }]

def reader : Reader ConversionQuery := structured fields {} fun p ↦ do
  return {
    amount := ← orMalformed p.amount
    currency := ← orMalformed p.currency
    direction := p.direction.getD default
    mode := p.mode.getD default }

def jsonMembers (q : ConversionQuery) : List (String × List Char) :=
  [("amount", textChars q.amount.text), ("currency", textChars q.currency),
    ("direction", textChars q.direction.text), ("mode", textChars q.mode.text)]

end ConversionQuery

structure ConversionResponse where
  amount : Decimal
  currency : CurrencyCode
  direction : Direction
  converted : Decimal
  mode : Mode

namespace ConversionResponse

structure Parts where
  amount : Option Decimal := none
  currency : Option CurrencyCode := none
  direction : Option Direction := none
  converted : Option Decimal := none
  mode : Option Mode := none

def fields : List (FieldReader Parts) := [
  .of "amount" decimal Parts.amount fun p a ↦ { p with amount := some a },
  .of "currency" Reader.currency Parts.currency fun p a ↦ { p with currency := some a },
  .of "direction" Direction.reader Parts.direction fun p a ↦ { p with direction := some a },
  .of "converted" decimal Parts.converted fun p a ↦ { p with converted := some a },
  .of "mode" Mode.reader Parts.mode fun p a ↦ { p with mode := some a }]

def reader : Reader ConversionResponse := structured fields {} fun p ↦ do
  return {
    amount := ← orMalformed p.amount
    currency := ← orMalformed p.currency
    direction := ← orMalformed p.direction
    converted := ← orMalformed p.converted
    mode := ← orMalformed p.mode }

def jsonMembers (r : ConversionResponse) : List (String × List Char) :=
  [("amount", textChars r.amount.text), ("currency", textChars r.currency.text),
    ("direction", textChars r.direction.text), ("converted", textChars r.converted.text),
    ("mode", textChars r.mode.text)]

end ConversionResponse

end TieredRates
