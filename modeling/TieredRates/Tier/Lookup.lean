import TieredRates.Tier.Cache
import TieredRates.Tier.First
import TieredRates.Tier.Store
import TieredRates.Trust

namespace TieredRates

/-- What looking a currency up in one tier comes to. Age counts from the moment of caching in the
first tier, and from that of capture elsewhere. -/
inductive Lookup where
  | hit (r : RateRecord)
  | untrusted (r : RateRecord)
  | stale (r : RateRecord)
  | miss
deriving DecidableEq

namespace Lookup

def record? : Lookup → Option RateRecord
  | hit r | untrusted r | stale r => some r
  | miss => none

def untrusted? : Lookup → Option RateRecord
  | untrusted r => some r
  | _ => none

/-- Trust comes before age. -/
def judge (p : Policy) (mode : Mode) (fresh : Bool) (r : RateRecord) : Lookup :=
  if p.Accepts mode r then if fresh then hit r else stale r else untrusted r

/-- An entry of the first tier that is too old is none at all. -/
def inFirst (p : Policy) (mode : Mode) (now : Instant) : Option Cached → Lookup
  | some e => if e.Within p.l1Window now then judge p mode true e.record else miss
  | none => miss

/-- In the second tier age comes before trust. A failure counts as a miss. -/
def inCache (p : Policy) (mode : Mode) (now : Instant) :
    Except CacheError (Option RateRecord) → Lookup
  | .ok (some r) => if r.FreshWithin p.syncInterval now then judge p mode true r else stale r
  | .ok none | .error _ => miss

def inStore (p : Policy) (mode : Mode) (now : Instant) :
    Except StoreError (Option RateRecord) → Lookup
  | .ok (some r) => judge p mode (r.FreshWithin p.syncInterval now) r
  | .ok none | .error _ => miss

end Lookup

end TieredRates
