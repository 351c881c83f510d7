import TieredRates.Calendar.Instant
import TieredRates.Currency
import TieredRates.Decimal.Text
import TieredRates.Text.Quoted

namespace TieredRates

inductive DomainError where
  | invalidCurrency (given : String)
  | nonPositiveRate (currency : CurrencyCode) (rate : Decimal)
  | baseCurrencyRate
  | unsupportedBase (given : String)
deriving DecidableEq

namespace DomainError

def message : DomainError → String
  | invalidCurrency given => s!"Invalid currency code: {Text.quote given}"
  | nonPositiveRate currency rate => s!"Rate for {currency} must be positive, got {rate}"
  | baseCurrencyRate => "The base currency always converts at exactly 1"
  | unsupportedBase given => s!"Unsupported base currency: {given}"

end DomainError

/-- Reads a code; what is refused is shown without the white space around it. -/
def CurrencyCode.parse (s : String) : Except DomainError CurrencyCode :=
  match CurrencyCode.parse? s with
  | some c => .ok c
  | none => .error (.invalidCurrency (String.ofList (Text.trim s.toList)))

/-- How much of a currency one unit of the base currency buys, who said so and when. -/
structure RateRecord where
  target : CurrencyCode
  rate : Decimal
  capturedAt : Instant
  provider : String
  observedOn : Option Date
  target_ne : target ≠ CurrencyCode.usd
  rate_pos : rate.IsPositive
deriving DecidableEq

namespace RateRecord

def make (target : CurrencyCode) (rate : Decimal) (provider : String) (capturedAt : Instant) :
    Except DomainError RateRecord :=
  if ht : target = CurrencyCode.usd then .error .baseCurrencyRate
  else if hr : rate.IsPositive then
    .ok {
      target, rate, capturedAt, provider
      observedOn := none
      target_ne := ht
      rate_pos := hr }
  else .error (.nonPositiveRate target rate)

def withObservedOn (r : RateRecord) (date : Option Date) : RateRecord :=
  { r with observedOn := date }

/-- Time since capture; none has passed for a record from the future. -/
def age (r : RateRecord) (now : Instant) : Int := max 0 (now.since r.capturedAt)

def FreshWithin (r : RateRecord) (window : Int) (now : Instant) : Prop := r.age now ≤ window

instance (r : RateRecord) (window : Int) (now : Instant) : Decidable (r.FreshWithin window now) :=
  inferInstanceAs (Decidable (_ ≤ _))

end RateRecord

end TieredRates
