import TieredRates.Direction
import TieredRates.Resolve.Error
import TieredRates.Tier.Lookup

namespace TieredRates

structure Tiers (κ σ π : Type) where
  first : FirstTier
  cache : κ
  store : σ
  source : π

namespace Policy

def refusal (p : Policy) (r : RateRecord) : ResolveError :=
  .untrusted r.target r.provider ((p.authority? r.target).getD "")

/-- The answer once the source has failed: `stored` is what the store had, `seen` the first record
that the caches had but the mode does not accept. -/
def degrade (p : Policy) (mode : Mode) (c : CurrencyCode) (stored : Lookup)
    (seen : Option RateRecord) (e : SourceError) : Except ResolveError Decimal :=
  match mode with
  | .nonStrict => match stored.record? with
    | some r => .ok r.rate
    | none => .ok .one
  | .strict => match stored, seen with
    | .untrusted r, _ | .miss, some r => .error (p.refusal r)
    | .stale r, _ => .error (.stale c r.capturedAt)
    | _, _ => .error (.unavailable c e)

end Policy

namespace Tiers

variable {κ σ π : Type} [SharedCache κ] [RateStore σ] [LiveSource π]

def fillFirst (t : Tiers κ σ π) (now : Instant) (r : RateRecord) : Tiers κ σ π :=
  { t with first := FirstTier.cache t.first r now }

def fillCache (t : Tiers κ σ π) (now : Instant) (r : RateRecord) : Tiers κ σ π :=
  { t with cache := (SharedCache.put t.cache now r).2 }

/-- A record goes into both caches, at the time of the question: asking takes none. -/
def fill (t : Tiers κ σ π) (now : Instant) (r : RateRecord) : Tiers κ σ π :=
  (t.fillCache now r).fillFirst now r

def persist (t : Tiers κ σ π) (r : RateRecord) : Tiers κ σ π :=
  { t with store := (RateStore.put t.store r).2 }

/-- Answers with a live record. The store takes it only if strict callers accept it. -/
def accept (t : Tiers κ σ π) (p : Policy) (now : Instant) (mode : Mode) (r : RateRecord) :
    Except ResolveError Decimal × Tiers κ σ π :=
  if p.Trusts r then (.ok r.rate, (t.persist r).fill now r)
  else if mode = .strict then (.error (p.refusal r), t)
  else (.ok r.rate, t.fill now r)

def fromSource (t : Tiers κ σ π) (p : Policy) (now : Instant) (mode : Mode) (c : CurrencyCode)
    (stored : Lookup) (seen : Option RateRecord) : Except ResolveError Decimal × Tiers κ σ π :=
  let got := LiveSource.fetch t.source now c
  let t := { t with source := got.2 }
  match got.1 with
  | .ok r => t.accept p now mode r
  | .error e => (p.degrade mode c stored seen e, t)

/-- Asks the store and whatever is behind it. The time at which a record is judged is also that at
which it is cached. -/
def fromStore (t : Tiers κ σ π) (p : Policy) (now : Instant) (mode : Mode) (c : CurrencyCode)
    (seen : Option RateRecord) : Except ResolveError Decimal × Tiers κ σ π :=
  let got := RateStore.get t.store c
  let t := { t with store := got.2 }
  match Lookup.inStore p mode now got.1 with
  | .hit r => (.ok r.rate, t.fill now r)
  | stored => t.fromSource p now mode c stored seen

def fromCache (t : Tiers κ σ π) (p : Policy) (now : Instant) (mode : Mode) (c : CurrencyCode)
    (seen : Option RateRecord) : Except ResolveError Decimal × Tiers κ σ π :=
  let got := SharedCache.get t.cache now c
  let t := { t with cache := got.2 }
  match Lookup.inCache p mode now got.1 with
  | .hit r => (.ok r.rate, t.fillFirst now r)
  -- of two refused records the first tier's is the one to blame
  | found => t.fromStore p now mode c (seen <|> found.untrusted?)

/-- The rate of a currency: the tiers are asked in order, then the live source. The first record
that is fresh and accepted answers, and goes into the tiers that were asked before it. If the source
fails too, a caller who does not insist gets the stored record whatever its age, or else 1. No tier
is asked for the base currency. -/
def rateOf (t : Tiers κ σ π) (p : Policy) (now : Instant) (mode : Mode) (c : CurrencyCode) :
    Except ResolveError Decimal × Tiers κ σ π :=
  if c = .usd then (.ok .one, t)
  else
    match Lookup.inFirst p mode now (t.first.get? c) with
    | .hit r => (.ok r.rate, t)
    | found => t.fromCache p now mode c found.untrusted?

def resolve (t : Tiers κ σ π) (p : Policy) (now : Instant) (mode : Mode) (code : String) :
    Except ResolveError Decimal × Tiers κ σ π :=
  match CurrencyCode.parse code with
  | .ok c => t.rateOf p now mode c
  | .error e => (.error (.invalidCurrency e), t)

def convert (t : Tiers κ σ π) (p : Policy) (now : Instant) (mode : Mode) (direction : Direction)
    (amount : Decimal) (code : String) : Except ResolveError Decimal × Tiers κ σ π :=
  match CurrencyCode.parse code with
  | .error e => (.error (.invalidCurrency e), t)
  | .ok c =>
    let found := t.rateOf p now mode c
    match found.1 with
    | .error e => (.error e, found.2)
    | .ok rate => match direction.convert? amount rate with
      | some converted => (.ok converted, found.2)
      | none => (.error (.overflow amount c), found.2)

/-- Every known rate: the stored ones, and those of the first tier that are young enough for
currencies that the store does not list. -/
def rates (t : Tiers κ σ π) (p : Policy) (now : Instant) :
    Table CurrencyCode Decimal × Tiers κ σ π :=
  let got := RateStore.list t.store
  let stored : Table CurrencyCode Decimal := match got.1 with
    | .ok rs => .ofList (rs.map fun r ↦ (r.target, r.rate))
    | .error _ => ∅
  let cached := FirstTier.recordsWithin t.first p.l1Window now
  (cached.foldl (fun rates r ↦ rates.insertNew r.target r.rate) stored,
    { t with store := got.2 })

/-- Puts a given rate into every tier, captured and cached at one time. Only the store may refuse
it. -/
def record (t : Tiers κ σ π) (now : Instant) (code : String) (rate : Decimal)
    (provider : String) : Except RecordError RateRecord × Tiers κ σ π :=
  match CurrencyCode.parse code >>= fun c ↦ RateRecord.make c rate provider now with
  | .error e => (.error (.invalid e), t)
  | .ok r =>
    let put := RateStore.put t.store r
    let t := { t with store := put.2 }
    match put.1 with
    | .error e => (.error (.store e), t)
    | .ok () => (.ok r, t.fill now r)

end Tiers

end TieredRates
