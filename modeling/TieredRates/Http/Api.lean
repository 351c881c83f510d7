import TieredRates.Http.Query
import TieredRates.Resolve.Basic

namespace TieredRates

/-- Why a question of the web interface is refused, or not even asked. -/
inductive ApiError where
  | query (fault : QueryFault)
  | resolve (e : ResolveError)
deriving DecidableEq

namespace ApiError

def message : ApiError → String
  | query fault => fault.message
  | resolve e => e.message

/-- What cannot be read or computed is the caller's fault. An untrusted rate is a conflict, and for
one that is missing or stale the caller may come back later. -/
def status : ApiError → Nat
  | query _ => 400
  | resolve (.invalidCurrency _) | resolve (.overflow _ _) => 400
  | resolve (.untrusted _ _ _) => 409
  | resolve (.stale _ _) | resolve (.unavailable _ _) => 503

end ApiError

namespace Tiers

variable {κ σ π : Type} [SharedCache κ] [RateStore σ] [LiveSource π]

def answerRate (t : Tiers κ σ π) (p : Policy) (now : Instant) (currency : String)
    (query : Except QueryFault RateQuery) : Except ApiError RateResponse × Tiers κ σ π :=
  match query with
  | .error fault => (.error (.query fault), t)
  | .ok q => match CurrencyCode.parse currency with
    | .error e => (.error (.resolve (.invalidCurrency e)), t)
    | .ok c =>
      let found := t.resolve p now q.mode c.text
      match found.1 with
      | .error e => (.error (.resolve e), found.2)
      | .ok rate => (.ok { base := .usd, currency := c, rate, mode := q.mode }, found.2)

def answerConversion (t : Tiers κ σ π) (p : Policy) (now : Instant)
    (query : Except QueryFault ConversionQuery) :
    Except ApiError ConversionResponse × Tiers κ σ π :=
  match query with
  | .error fault => (.error (.query fault), t)
  | .ok q => match CurrencyCode.parse q.currency with
    | .error e => (.error (.resolve (.invalidCurrency e)), t)
    | .ok c =>
      let found := t.convert p now q.mode q.direction q.amount c.text
      match found.1 with
      | .error e => (.error (.resolve e), found.2)
      | .ok converted =>
        (.ok { amount := q.amount, currency := c, direction := q.direction, converted,
               mode := q.mode }, found.2)

end Tiers

end TieredRates
