import TieredRates.Table
import TieredRates.Tier.Cache

namespace TieredRates

instance : SharedCache (Table CurrencyCode RateRecord) where
  get t _ c := (.ok (t.get? c), t)
  put t _ r := (.ok (), t.insert r.target r)

structure Expiring where
  record : RateRecord
  expiresAt : Instant
deriving DecidableEq

structure TimedCache where
  entries : Table CurrencyCode Expiring
  lifetime : Int

namespace TimedCache

def empty (lifetime : Int) : TimedCache := { entries := ∅, lifetime }

def live? (t : TimedCache) (now : Instant) (c : CurrencyCode) : Option RateRecord :=
  match t.entries.get? c with
  | some e => if now < e.expiresAt then some e.record else none
  | none => none

def evict (t : TimedCache) (now : Instant) (c : CurrencyCode) : TimedCache :=
  match t.entries.get? c with
  | some e => if e.expiresAt ≤ now then { t with entries := t.entries.erase c } else t
  | none => t

/-- Keeps a record, its lifetime counted from now. There is no putting one whose time would end past
the calendar; the end of the calendar stands for that here, and results that say a put succeeds ask
for a lifetime in range. -/
def put (t : TimedCache) (now : Instant) (r : RateRecord) : TimedCache :=
  let e := { record := r, expiresAt := now.plus t.lifetime }
  { t with entries := t.entries.insert r.target e }

def remove (t : TimedCache) (c : CurrencyCode) : TimedCache :=
  { t with entries := t.entries.erase c }

/-- The number of entries, expired ones included. -/
def size (t : TimedCache) : Nat := t.entries.size

instance : SharedCache TimedCache where
  get t now c := match t.live? now c with
    | some r => (.ok (some r), t)
    -- an expired entry takes up room until it is asked for
    | none => (.ok none, t.evict now c)
  put t now r := (.ok (), t.put now r)

end TimedCache

end TieredRates
