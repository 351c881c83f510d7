import TieredRates.Record
import TieredRates.Settings.Literal

namespace TieredRates

open Text

structure Authority where
  currency : CurrencyCode
  provider : String
  endpoint : String
  apiKey : Option String
deriving DecidableEq

structure Settings where
  portNumber : Nat
  databaseUrl : String
  /-- Without one the second tier is kept in memory. -/
  redisUrl : Option String
  l1Window : Int
  syncInterval : Int
  authority : Option Authority
  /-- In seconds. -/
  providerTimeout : Nat
  fixedRates : Bool
deriving DecidableEq

inductive SettingsError where
  | missingDatabase
  | invalidValue (name given : String) (fault : LiteralFault)
  | nonPositiveWindow
  | incompleteAuthority
  | authorityCurrency (e : DomainError)
deriving DecidableEq

namespace SettingsError

def message : SettingsError → String
  | missingDatabase => "DATABASE_URL environment variable is required"
  | invalidValue name given _ => s!"{name} has an invalid value: {Text.quote given}"
  | nonPositiveWindow => "RATE_L1_TTL_SECS and RATE_SYNC_INTERVAL_SECS must be positive"
  | incompleteAuthority => "AUTHORITATIVE_CURRENCY, AUTHORITATIVE_PROVIDER_ID and " ++
      "AUTHORITATIVE_ENDPOINT must be set together"
  | authorityCurrency _ => "AUTHORITATIVE_CURRENCY is not a currency code"

def cause? : SettingsError → Option String
  | invalidValue _ _ fault => some fault.message
  | authorityCurrency e => some e.message
  | _ => none

end SettingsError

abbrev Environment := String → Option String

namespace Environment

/-- A variable's value, unless it is blank. -/
def value? (env : Environment) (name : String) : Option String :=
  (env name).filter fun s ↦ trim s.toList ≠ []

def literal {α : Type} (env : Environment) (name : String)
    (read : List Char → Except LiteralFault α) (unset : α) : Except SettingsError α :=
  match env.value? name with
  | some s => (read (trim s.toList)).mapError (.invalidValue name s)
  | none => .ok unset

/-- The three variables of the authoritative feed are set together or not at all. -/
def authority (env : Environment) : Except SettingsError (Option Authority) :=
  match env.value? "AUTHORITATIVE_CURRENCY", env.value? "AUTHORITATIVE_PROVIDER_ID",
    env.value? "AUTHORITATIVE_ENDPOINT" with
  | none, none, none => .ok none
  | some code, some provider, some endpoint => do
    let currency ← (CurrencyCode.parse code).mapError .authorityCurrency
    return some { currency, provider, endpoint, apiKey := env.value? "AUTHORITATIVE_API_KEY" }
  | _, _, _ => .error .incompleteAuthority

end Environment

namespace Settings

def read (env : Environment) : Except SettingsError Settings := do
  let portNumber ← env.literal "PORT" (Literal.natural 0xffff) 3000
  let databaseUrl ← match env.value? "DATABASE_URL" with
    | some url => .ok url
    | none => .error .missingDatabase
  let l1Seconds ← env.literal "RATE_L1_TTL_SECS" Literal.integer 300
  let syncSeconds ← env.literal "RATE_SYNC_INTERVAL_SECS" Literal.integer 86400
  if l1Seconds ≤ 0 ∨ syncSeconds ≤ 0 then throw .nonPositiveWindow
  let authority ← env.authority
  let providerTimeout ←
    env.literal "PROVIDER_TIMEOUT_SECS" (Literal.natural 0xffffffffffffffff) 10
  let fixedRates ← env.literal "ENABLE_FIXED_RATES" Literal.truth false
  return {
    portNumber, databaseUrl, authority, providerTimeout, fixedRates
    redisUrl := env.value? "REDIS_URL"
    l1Window := Span.ofSeconds l1Seconds
    syncInterval := Span.ofSeconds syncSeconds }

/-- The longest window: 2 ^ 63 - 1 milliseconds. -/
def longestWindow : Int := Span.ofMillis 0x7fffffffffffffff

inductive Outcome where
  | loaded (s : Settings)
  | refused (e : SettingsError)
  /-- The program ends without a report. -/
  | aborted
deriving DecidableEq

/-- A window that is too long is noticed only once everything else has been read, and there is no
way to go on. -/
def load (env : Environment) : Outcome :=
  match read env with
  | .error e => .refused e
  | .ok s =>
    if s.l1Window ≤ longestWindow ∧ s.syncInterval ≤ longestWindow then .loaded s else .aborted

end Settings

end TieredRates
