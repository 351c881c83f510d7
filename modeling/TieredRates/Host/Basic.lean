import TieredRates.Host.Name
import TieredRates.Host.Number
import TieredRates.Text.Percent

namespace TieredRates

open Text

inductive Host where
  | byNumber
  | byName (name : List Char)
deriving DecidableEq

namespace Host

/-- Reads a host. A name that ends in a number has to be one as a whole. -/
def read? : List Char → Option Host
  | '[' :: s => if s.getLast? = some ']' ∧ isGrouped s.dropLast then some byNumber else none
  | s => do
    let name ← nameInAscii? (ofUtf8 (percentBytes s))
    if name = [] then none
    else if endsInNumber name then if isDotted name then some byNumber else none
    else return byName name

def isUnsendable (c : Char) : Bool := c ∈ ['"', '\x60', '\x7b', '\x7d']

def isSendable : Host → Bool
  | byNumber => true
  | byName name => !name.any isUnsendable

end Host

end TieredRates
