import TieredRates.Record

namespace TieredRates

inductive RowFault where
  | malformed
  | unsupportedBase (given : String)
  | domain (e : DomainError)
deriving DecidableEq

namespace RowFault

/-- Faults of form are not told apart. -/
def message : RowFault → String
  | malformed => "<detail>"
  | unsupportedBase given => "unsupported base currency " ++ given
  | domain e => e.message

end RowFault

inductive StoreError where
  | database (reason : String)
  | row (fault : RowFault)
deriving DecidableEq

namespace StoreError

def message : StoreError → String
  | database reason => "Database error: " ++ reason
  | row fault => "Corrupt rate row: " ++ fault.message

end StoreError

class RateStore (σ : Type) where
  get : σ → CurrencyCode → Except StoreError (Option RateRecord) × σ
  put : σ → RateRecord → Except StoreError Unit × σ
  /-- Every stored record that can be read. -/
  list : σ → Except StoreError (List RateRecord) × σ

end TieredRates
