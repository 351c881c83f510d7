import TieredRates.Json.Reader

namespace TieredRates

inductive CacheError where
  | backend (reason : String)
  | payload (fault : Json.Fault)
deriving DecidableEq

namespace CacheError

def message : CacheError → String
  | backend reason => "Cache backend error: " ++ reason
  | payload fault => "Cache payload error: " ++ fault.message

end CacheError

/-- A cache forgets entries by a rule of its own, so asking may change it, and every request may
fail. -/
class SharedCache (κ : Type) where
  get : κ → Instant → CurrencyCode → Except CacheError (Option RateRecord) × κ
  put : κ → Instant → RateRecord → Except CacheError Unit × κ

end TieredRates
