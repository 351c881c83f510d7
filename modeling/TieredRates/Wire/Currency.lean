import TieredRates.Json.Reader
import TieredRates.Json.Writer

namespace TieredRates.CurrencyCode

open Json Reader

def ofString (s : String) : Except DomainError CurrencyCode := parse s

def ofJson (s : String) : Except Fault CurrencyCode := readWhole currency s

def toJson (c : CurrencyCode) : String := String.ofList (textChars c.text)

end TieredRates.CurrencyCode
