import TieredRates.Record
import TieredRates.Table

namespace TieredRates

structure Cached where
  record : RateRecord
  cachedAt : Instant
deriving DecidableEq

namespace Cached

def Within (e : Cached) (window : Int) (now : Instant) : Prop := now.since e.cachedAt ≤ window

instance (e : Cached) (window : Int) (now : Instant) : Decidable (e.Within window now) :=
  inferInstanceAs (Decidable (_ ≤ _))

end Cached

/-- Entries stay until they are replaced; it is for the reader to say how old one may be. -/
abbrev FirstTier := Table CurrencyCode Cached

namespace FirstTier

def cache (t : FirstTier) (r : RateRecord) (cachedAt : Instant) : FirstTier :=
  t.insert r.target { record := r, cachedAt }

def recordsWithin (t : FirstTier) (window : Int) (now : Instant) : List RateRecord :=
  (t.values.filter fun e ↦ e.Within window now).map (·.record)

theorem get?_cache (t : FirstTier) (r : RateRecord) (at_ : Instant) (c : CurrencyCode) :
    (t.cache r at_).get? c = if c = r.target then some ⟨r, at_⟩ else t.get? c :=
  t.get?_insert r.target c _

def Keyed (t : FirstTier) : Prop := ∀ c e, t.get? c = some e → e.record.target = c

theorem Keyed.cache {t : FirstTier} (h : Keyed t) (r : RateRecord) (cachedAt : Instant) :
    Keyed (FirstTier.cache t r cachedAt) := by
  intro c e he
  rw [get?_cache] at he
  split at he
  · next hc =>
    obtain rfl := Option.some.inj he
    exact hc.symm
  · exact h c e he

end FirstTier

end TieredRates
