import TieredRates.Cache.Remote
import TieredRates.Http.Router
import TieredRates.Source.Provider
import TieredRates.Store.Rows
import TieredRates.Tier.Monitor

namespace TieredRates

abbrev ServiceTiers := Tiers (Monitored Cache) (Monitored Store) (Monitored Registry)

structure Session where
  policy : Policy
  now : Instant
  tiers : ServiceTiers

inductive TierName where
  | first
  | cache
  | store
deriving DecidableEq

inductive Step where
  | advance (span : Int)
  | resolve (mode : Mode) (code : String)
  | convert (mode : Mode) (direction : Direction) (amount : Decimal) (code : String)
  | list
  | record (code : String) (rate : Decimal) (provider : String)
  | request (q : Http.Request)
  /-- From now on the monitor lets these kinds of requests fail. -/
  | switchCache (down : Outage)
  | switchStore (down : Outage)
  | switchSource (down : Outage)
  | check (tier : TierName) (mode : Mode) (c : CurrencyCode) (time : Option Instant)
  | putFirst (r : RateRecord) (cachedAt : Option Instant)
  | getFirst (c : CurrencyCode)
  | listFirst (window : Int) (time : Option Instant)
  | clearFirst
  | putCache (r : RateRecord)
  | getCache (c : CurrencyCode)
  /-- An entry is taken out behind the monitor's back. -/
  | removeCache (c : CurrencyCode)
  /-- A text is left on the server behind the monitor's back. -/
  | plantCache (key value : String)
  | putStore (r : RateRecord)
  | getStore (c : CurrencyCode)
  | listStore
  /-- A row is written behind the monitor's back. -/
  | writeRow (key : RowKey) (row : Row)
  /-- The registry is asked behind the monitor's back. -/
  | fetch (c : CurrencyCode)
  | route (c : CurrencyCode)
  | setRate (name : String) (c : CurrencyCode) (rate : Decimal)
  | setRecord (name : String) (r : RateRecord)
  | setReply (name : String) (reply : Reply)

inductive Answer where
  | done
  | time (t : Instant)
  | amount (d : Decimal)
  | rates (rates : Table CurrencyCode Decimal)
  | record (r : RateRecord)
  | record? (r : Option RateRecord)
  | records (rs : List RateRecord)
  | response (r : Http.Response)
  | lookup (l : Lookup)
  | cached? (e : Option Cached)
  | codes (cs : List CurrencyCode)
  | isEmpty (b : Bool)
  | removed (isEmpty : Bool) (lifetime : Int)
  | rowsWritten (n : Nat)
  | registry (size : Nat) (supports : Bool)
deriving DecidableEq

inductive StepError where
  | resolve (e : ResolveError)
  | domain (e : DomainError)
  | store (e : StoreError)
  | cache (e : CacheError)
  | source (e : SourceError)
deriving DecidableEq

namespace RecordError

def toStepError : RecordError → StepError
  | invalid e => .domain e
  | store e => .store e

end RecordError

namespace Cache

def remove (k : Cache) (c : CurrencyCode) : Cache :=
  match k with
  | table t => table (t.erase c)
  | timed t => timed (t.remove c)
  | remote r => remote { r with server := r.server.erase c.cacheKey }

def plant (k : Cache) (key value : String) : Cache :=
  match k with
  | remote r => remote { r with server := KeyValueServer.set r.server key value }
  | k => k

def remains : Cache → Answer
  | timed t => .removed (t.size = 0) t.lifetime
  | _ => .done

end Cache

namespace Store

def writeRow (s : Store) (key : RowKey) (row : Row) : Store × Nat :=
  match s with
  | rows s => (rows ⟨s.rows.insert key row⟩, 1)
  | s => (s, 0)

end Store

namespace Provider

def setRate (name : String) (c : CurrencyCode) (rate : Decimal) : Provider → Provider
  | fixed n rates => if n = name then fixed n (rates.insert c rate) else fixed n rates
  | p => p

def setRecord (name : String) (r : RateRecord) : Provider → Provider
  | canned n records => if n = name then canned n (records.insert r.target r) else canned n records
  | p => p

def setReply (name : String) (reply : Reply) : Provider → Provider
  | feed f => if f.id = name then feed { f with reply } else feed f
  | p => p

end Provider

namespace Session

def finish {ε α : Type} (s : Session) (answer : α → Answer) (fault : ε → StepError)
    (done : Except ε α × ServiceTiers) : Except StepError Answer × Session :=
  ((done.1.map answer).mapError fault, { s with tiers := done.2 })

def proceed (s : Session) (tiers : ServiceTiers) (answer : Answer := .done) :
    Except StepError Answer × Session :=
  (.ok answer, { s with tiers })

def setProviders (s : Session) (f : Provider → Provider) : Except StepError Answer × Session :=
  let source := s.tiers.source
  s.proceed { s.tiers with source := { source with inner := ⟨source.inner.providers.map f⟩ } }

/-- What a lookup in one tier comes to at some time; the tier itself goes by the clock. -/
def check (s : Session) (mode : Mode) (c : CurrencyCode) (time : Instant) :
    TierName → Lookup × ServiceTiers
  | .first => (Lookup.inFirst s.policy mode time (s.tiers.first.get? c), s.tiers)
  | .cache =>
    let got := SharedCache.get s.tiers.cache s.now c
    (Lookup.inCache s.policy mode time got.1, { s.tiers with cache := got.2 })
  | .store =>
    let got := RateStore.get s.tiers.store c
    (Lookup.inStore s.policy mode time got.1, { s.tiers with store := got.2 })

def step (s : Session) : Step → Except StepError Answer × Session
  | .advance span =>
    let now := s.now.plus span
    (.ok (.time now), { s with now })
  | .resolve mode code => s.finish .amount .resolve (s.tiers.resolve s.policy s.now mode code)
  | .convert mode direction amount code =>
    s.finish .amount .resolve (s.tiers.convert s.policy s.now mode direction amount code)
  | .list =>
    let listed := s.tiers.rates s.policy s.now
    s.proceed listed.2 (.rates listed.1)
  | .record code rate provider =>
    s.finish .record RecordError.toStepError (s.tiers.record s.now code rate provider)
  | .request q =>
    let answer := Http.respond s.tiers s.policy s.now q
    s.proceed answer.2 (.response answer.1)
  | .switchCache down => s.proceed { s.tiers with cache := { s.tiers.cache with down } }
  | .switchStore down => s.proceed { s.tiers with store := { s.tiers.store with down } }
  | .switchSource down => s.proceed { s.tiers with source := { s.tiers.source with down } }
  | .check tier mode c time =>
    let found := s.check mode c (time.getD s.now) tier
    s.proceed found.2 (.lookup found.1)
  | .putFirst r cachedAt => s.proceed (s.tiers.fillFirst (cachedAt.getD s.now) r)
  | .getFirst c => s.proceed s.tiers (.cached? (s.tiers.first.get? c))
  | .listFirst window time =>
    let rs := FirstTier.recordsWithin s.tiers.first window (time.getD s.now)
    s.proceed s.tiers (.codes (rs.map (·.target)))
  | .clearFirst => s.proceed { s.tiers with first := ∅ } (.isEmpty true)
  | .putCache r =>
    let put := SharedCache.put s.tiers.cache s.now r
    s.finish (fun _ ↦ .done) .cache (put.1, { s.tiers with cache := put.2 })
  | .getCache c =>
    let got := SharedCache.get s.tiers.cache s.now c
    s.finish .record? .cache (got.1, { s.tiers with cache := got.2 })
  | .removeCache c =>
    let inner := s.tiers.cache.inner.remove c
    s.proceed { s.tiers with cache := { s.tiers.cache with inner } } inner.remains
  | .plantCache key value =>
    let inner := s.tiers.cache.inner.plant key value
    s.proceed { s.tiers with cache := { s.tiers.cache with inner } }
  | .putStore r =>
    let put := RateStore.put s.tiers.store r
    s.finish (fun _ ↦ .done) .store (put.1, { s.tiers with store := put.2 })
  | .getStore c =>
    let got := RateStore.get s.tiers.store c
    s.finish .record? .store (got.1, { s.tiers with store := got.2 })
  | .listStore =>
    let got := RateStore.list s.tiers.store
    s.finish .records .store (got.1, { s.tiers with store := got.2 })
  | .writeRow key row =>
    let written := s.tiers.store.inner.writeRow key row
    s.proceed { s.tiers with store := { s.tiers.store with inner := written.1 } }
      (.rowsWritten written.2)
  | .fetch c =>
    let got := LiveSource.fetch s.tiers.source.inner s.now c
    s.finish .record .source
      (got.1, { s.tiers with source := { s.tiers.source with inner := got.2 } })
  | .route c =>
    let g := s.tiers.source.inner
    s.proceed s.tiers (.registry g.providers.length (g.supports c))
  | .setRate name c rate => s.setProviders (.setRate name c rate)
  | .setRecord name r => s.setProviders (.setRecord name r)
  | .setReply name reply => s.setProviders (.setReply name reply)

/-- The step puts a record into a cache in the process that has no time for it to expire at. That ends
the program without a report, so the answer of such a step counts for nothing. -/
def Aborts (s : Session) (a : Step) : Prop :=
  s.tiers.cache.down.puts = false ∧ s.tiers.cache.puts < (s.step a).2.tiers.cache.puts ∧
    ¬ s.tiers.cache.inner.InRange s.now

instance (s : Session) (a : Step) : Decidable (s.Aborts a) := inferInstanceAs (Decidable (_ ∧ _))

def run (s : Session) : List Step → List (Except StepError Answer) × Session
  | [] => ([], s)
  | a :: as =>
    let done := s.step a
    let rest := done.2.run as
    (done.1 :: rest.1, rest.2)

/-- The requests so far: for the store to get, put and list, for the cache to get and put, and for
the source to fetch. -/
def calls (s : Session) : List Nat :=
  [s.tiers.store.gets, s.tiers.store.puts, s.tiers.store.lists, s.tiers.cache.gets,
    s.tiers.cache.puts, s.tiers.source.gets]

def storedRecords (s : Session) : Table CurrencyCode RateRecord :=
  match (RateStore.list s.tiers.store.inner).1 with
  | .ok rs => .ofList (rs.map fun r ↦ (r.target, r))
  | .error _ => ∅

end Session

end TieredRates
