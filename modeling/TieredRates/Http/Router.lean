import TieredRates.Http.Api
import TieredRates.Http.Document

namespace TieredRates.Http

open Json

structure Request where
  method : String := "GET"
  /-- Path and query, perhaps behind a scheme and a host. -/
  target : String
deriving DecidableEq

structure Response where
  status : Nat
  headers : List (String × String)
  body : String
deriving DecidableEq

inductive Route where
  | health
  | rates
  | rate (segment : List Char)
  | convert
  | document
deriving DecidableEq

def dropOrigin (target : List Char) : List Char :=
  match target, (Text.splitFirst ':' target).2 with
  | '/' :: _, _ => target
  | _, some ('/' :: '/' :: s) => s.dropWhile fun c ↦ c ≠ '/' && c ≠ '?' && c ≠ '#'
  | _, _ => target

/-- Path and query of a target. What follows a `#` is neither. -/
def splitTarget (target : String) : List Char × List Char :=
  let (path, query) := Text.splitFirst '?' (Text.splitFirst '#' (dropOrigin target.toList)).1
  (path, query.getD [])

def Route.ofPath? (path : List Char) : Option Route :=
  if path = "/health".toList then some .health
  else if path = "/api/rates".toList then some .rates
  else if path = "/api/convert".toList then some .convert
  else if path = "/api-docs/openapi.json".toList then some .document
  else match Text.behind? "/api/rates/".toList path with
    | some segment => if segment ≠ [] ∧ '/' ∉ segment then some (.rate segment) else none
    | none => none

namespace Response

def anyOrigin : String × String := ("access-control-allow-origin", "*")

def allow : String × String := ("allow", "GET,HEAD")

def json (status : Nat) (body : List Char) : Response where
  status
  headers := [anyOrigin, ("content-type", "application/json")]
  body := String.ofList body

def plain (status : Nat) (body : String) : Response where
  status
  headers := [anyOrigin, ("content-type", "text/plain; charset=utf-8")]
  body

def bare (status : Nat) (headers : List (String × String)) : Response :=
  { status, headers, body := "" }

def refusal (e : ApiError) : Response :=
  json e.status (objectChars [("code", Text.digits e.status), ("error", textChars e.message)])

def ofAnswer {α : Type} (members : α → List (String × List Char)) : Except ApiError α → Response
  | .ok a => json 200 (objectChars (members a))
  | .error e => refusal e

end Response

variable {κ σ π : Type} [SharedCache κ] [RateStore σ] [LiveSource π]

def read (t : Tiers κ σ π) (p : Policy) (now : Instant) (query : List Char) :
    Route → Response × Tiers κ σ π
  | .health => (.json 200 (objectChars [("status", textChars "healthy")]), t)
  | .rates =>
    let listed := t.rates p now
    (.json 200 (objectChars (RateListing.jsonMembers { rates := listed.1 })), listed.2)
  | .rate segment => match Text.ofUtf8? (Text.percentBytes segment) with
    | none => (.plain 400 "Invalid URL: Invalid UTF-8 in `currency`", t)
    | some currency =>
      let answer := t.answerRate p now (String.ofList currency) (RateQuery.ofQuery query)
      (.ofAnswer RateResponse.jsonMembers answer.1, answer.2)
  | .convert =>
    let answer := t.answerConversion p now (ConversionQuery.ofQuery query)
    (.ofAnswer ConversionResponse.jsonMembers answer.1, answer.2)
  | .document => (.json 200 ApiDocument.ratesApi.jsonChars, t)

/-- Answers a request. A `HEAD` request is answered like a `GET` request, but without the body. -/
def respond (t : Tiers κ σ π) (p : Policy) (now : Instant) (q : Request) :
    Response × Tiers κ σ π :=
  let target := splitTarget q.target
  let route := Route.ofPath? target.1
  if q.method = "OPTIONS" then
    (.bare 200 ([("access-control-allow-methods", "GET"), Response.anyOrigin] ++
      if route.isSome then [Response.allow] else []), t)
  else match route with
    | none => (.bare 404 [Response.anyOrigin], t)
    | some route =>
      if q.method = "GET" then read t p now target.2 route
      else if q.method = "HEAD" then
        let answer := read t p now target.2 route
        ({ answer.1 with body := "" }, answer.2)
      else (.bare 405 [Response.anyOrigin, Response.allow], t)

end TieredRates.Http
