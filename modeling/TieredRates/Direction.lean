import TieredRates.Decimal.Product
import TieredRates.Decimal.Quotient

namespace TieredRates

inductive Direction where
  | fromUsd
  | toUsd
deriving DecidableEq, Inhabited

namespace Direction

def text : Direction → String
  | fromUsd => "from_usd"
  | toUsd => "to_usd"

def names : List (String × Direction) := [("from_usd", fromUsd), ("to_usd", toUsd)]

def convert? : Direction → Decimal → Decimal → Option Decimal
  | fromUsd, amount, rate => amount.mul? rate
  | toUsd, amount, rate => amount.div? rate

end Direction

end TieredRates
