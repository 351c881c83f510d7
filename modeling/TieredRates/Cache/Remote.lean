import TieredRates.Cache.Timed
import TieredRates.Payload

namespace TieredRates

structure ServerEntry where
  value : String
  /-- None for a value that stays. -/
  expiresAt : Option Instant
deriving DecidableEq

abbrev KeyValueServer := Table String ServerEntry

namespace KeyValueServer

def value? (s : KeyValueServer) (now : Instant) (key : String) : Option String :=
  match s.get? key with
  | some e => match e.expiresAt with
    | some t => if now < t then some e.value else none
    | none => some e.value
  | none => none

def setFor (s : KeyValueServer) (now : Instant) (key : String) (seconds : Nat) (value : String) :
    KeyValueServer :=
  s.insert key { value, expiresAt := some (now.plus (Span.ofSeconds seconds)) }

def set (s : KeyValueServer) (key value : String) : KeyValueServer :=
  s.insert key { value, expiresAt := none }

end KeyValueServer

/-- Payloads on a server, where other writers may have left anything else. -/
structure RemoteCache where
  server : KeyValueServer
  seconds : Nat
  /-- The commands sent, the last one first. -/
  commands : List String

namespace RemoteCache

/-- Entries live for whole seconds, for one at least. -/
def empty (lifetime : Int) : RemoteCache where
  server := ∅
  seconds := (max 1 (Span.toSeconds lifetime)).toNat
  commands := []

def get (k : RemoteCache) (now : Instant) (c : CurrencyCode) :
    Except CacheError (Option RateRecord) :=
  match KeyValueServer.value? k.server now c.cacheKey with
  | none => .ok none
  | some s => match Payload.decode c s with
    | .ok r => .ok (some r)
    | .error e => .error (.payload e)

def put (k : RemoteCache) (now : Instant) (r : RateRecord) : RemoteCache :=
  let key := r.target.cacheKey
  let value := Payload.encode r
  { k with
    server := KeyValueServer.setFor k.server now key k.seconds value
    commands := s!"SETEX {key} {k.seconds} {value}" :: k.commands }

instance : SharedCache RemoteCache where
  get k now c := (k.get now c, { k with commands := s!"GET {c.cacheKey}" :: k.commands })
  put k now r := (.ok (), k.put now r)

end RemoteCache

inductive Cache where
  | table (records : Table CurrencyCode RateRecord)
  | timed (timed : TimedCache)
  | remote (remote : RemoteCache)

namespace Cache

instance : SharedCache Cache where
  get
    | table t, now, c => ((SharedCache.get t now c).1, table (SharedCache.get t now c).2)
    | timed t, now, c => ((SharedCache.get t now c).1, timed (SharedCache.get t now c).2)
    | remote k, now, c => ((SharedCache.get k now c).1, remote (SharedCache.get k now c).2)
  put
    | table t, now, r => ((SharedCache.put t now r).1, table (SharedCache.put t now r).2)
    | timed t, now, r => ((SharedCache.put t now r).1, timed (SharedCache.put t now r).2)
    | remote k, now, r => ((SharedCache.put k now r).1, remote (SharedCache.put k now r).2)

/-- The calendar has a time at which what is put into a cache in the process now expires; there is
no putting it otherwise. -/
def InRange : Cache → Instant → Prop
  | timed t, now => now.plus? t.lifetime ≠ none
  | _, _ => True

instance (k : Cache) (now : Instant) : Decidable (k.InRange now) :=
  match k with
  | timed t => inferInstanceAs (Decidable (now.plus? t.lifetime ≠ none))
  | table _ | remote _ => inferInstanceAs (Decidable True)

end Cache

end TieredRates
