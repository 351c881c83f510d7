import TieredRates.Calendar.Timestamp
import TieredRates.Tier.Source
import TieredRates.Tier.Store

namespace TieredRates

inductive ResolveError where
  | invalidCurrency (e : DomainError)
  | stale (currency : CurrencyCode) (capturedAt : Instant)
  | unavailable (currency : CurrencyCode) (cause : SourceError)
  | untrusted (currency : CurrencyCode) (provider expected : String)
  | overflow (amount : Decimal) (currency : CurrencyCode)
deriving DecidableEq

namespace ResolveError

def message : ResolveError → String
  | invalidCurrency e => e.message
  | stale currency capturedAt =>
    s!"Rate for {currency} is stale (captured at {capturedAt.display})"
  | unavailable currency _ => s!"No rate available for {currency}"
  | untrusted currency provider expected =>
    s!"Rate for {currency} came from {provider}, expected {expected}"
  | overflow amount currency => s!"Converting {amount} with {currency} overflows"

def currency? : ResolveError → Option CurrencyCode
  | invalidCurrency _ => none
  | stale c _ | unavailable c _ | untrusted c _ _ | overflow _ c => some c

end ResolveError

inductive RecordError where
  | invalid (e : DomainError)
  | store (e : StoreError)
deriving DecidableEq

end TieredRates
