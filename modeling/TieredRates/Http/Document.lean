import TieredRates.Json.Writer
import TieredRates.Text.Digits

namespace TieredRates

structure ApiParameter where
  place : String
  name : String
  isRequired : Bool
deriving DecidableEq

structure ApiOperation where
  path : String
  method : String
  tags : List String
  parameters : List ApiParameter
  statuses : List Nat
deriving DecidableEq

structure ApiDocument where
  title : String
  version : String
  operations : List ApiOperation
  schemas : List String
deriving DecidableEq

namespace ApiDocument

def refusable : List Nat := [200, 400, 409, 503]

def ratesApi : ApiDocument where
  title := "Currency Rate Service API"
  version := "1.0.0"
  operations := [
    { path := "/api/convert"
      method := "get"
      tags := ["conversions"]
      parameters := [⟨"query", "amount", true⟩, ⟨"query", "currency", true⟩,
        ⟨"query", "direction", false⟩, ⟨"query", "mode", false⟩]
      statuses := refusable },
    { path := "/api/rates"
      method := "get"
      tags := ["rates"]
      parameters := []
      statuses := [200] },
    { path := "/api/rates/\x7bcurrency\x7d"
      method := "get"
      tags := ["rates"]
      parameters := [⟨"path", "currency", true⟩, ⟨"query", "mode", false⟩]
      statuses := refusable },
    { path := "/health"
      method := "get"
      tags := ["health"]
      parameters := []
      statuses := [200] }]
  schemas := ["CachedRatesResponse", "ConsistencyMode", "ConversionDirection",
    "ConversionResponse", "RateResponse"]

end ApiDocument

namespace ApiParameter

open Json

def jsonChars (p : ApiParameter) : List Char :=
  objectChars [("name", textChars p.name), ("in", textChars p.place),
    ("required", (if p.isRequired then "true" else "false").toList),
    ("schema", objectChars [("type", textChars "string")])]

end ApiParameter

namespace ApiOperation

open Json

def jsonChars (o : ApiOperation) : List Char :=
  objectChars [(o.method, objectChars [
    ("tags", '[' :: commaSeparated (o.tags.map textChars) ++ [']']),
    ("parameters", '[' :: commaSeparated (o.parameters.map (·.jsonChars)) ++ [']']),
    ("responses", objectChars (o.statuses.map fun n ↦
      (String.ofList (Text.digits n), objectChars [("description", textChars "")])))])]

end ApiOperation

namespace ApiDocument

open Json

def jsonChars (d : ApiDocument) : List Char :=
  objectChars [("openapi", textChars "3.1.0"),
    ("info", objectChars [("title", textChars d.title), ("version", textChars d.version)]),
    ("paths", objectChars (d.operations.map fun o ↦ (o.path, o.jsonChars))),
    ("components", objectChars [("schemas", objectChars (d.schemas.map fun name ↦
      (name, objectChars [("type", textChars "object")])))])]

end ApiDocument

end TieredRates
