import TieredRates.Proofs.Cache.Lookup
import TieredRates.Proofs.Resolution.Separation

namespace TieredRates.Tiers

/-- The second tiers have for a currency what the first ones have, as far as can be seen from now
on; the cache may have lost it. -/
structure SameFor (now : Instant) (c : CurrencyCode) (t t' : ServiceTiers) : Prop where
  first : t'.first.get? c = t.first.get? c
  cache : ∀ later, now ≤ later → ∀ r, (SharedCache.get t'.cache.inner later c).1 = .ok (some r) →
    (SharedCache.get t.cache.inner later c).1 = .ok (some r)
  store : t'.store.inner.record? c = t.store.inner.record? c
  storeUp : t.store.down.gets = false → t'.store.down.gets = false

variable {t t' : ServiceTiers} {p : Policy} {now : Instant} {mode : Mode} {c d : CurrencyCode}

theorem SameFor.refl (now : Instant) (c : CurrencyCode) (t : ServiceTiers) : SameFor now c t t :=
  ⟨rfl, fun _ _ _ h ↦ h, rfl, id⟩

theorem SameFor.of_cache (h : SameFor now c t t') {m : Monitored Cache}
    (hm : ∀ later, now ≤ later → ∀ r, (SharedCache.get m.inner later c).1 = .ok (some r) →
      (SharedCache.get t'.cache.inner later c).1 = .ok (some r)) :
    SameFor now c t { t' with cache := m } :=
  { h with cache := fun later hlater r hr ↦ h.cache later hlater r (hm later hlater r hr) }

theorem SameFor.of_store (h : SameFor now c t t') {m : Monitored Store}
    (hm : m.inner.record? c = t'.store.inner.record? c) (hdown : m.down = t'.store.down) :
    SameFor now c t { t' with store := m } :=
  { h with store := hm.trans h.store, storeUp := fun hup ↦ hdown ▸ h.storeUp hup }

theorem SameFor.of_slice (h : t'.slice c = t.slice c) : SameFor now c t t' := by
  obtain ⟨-, hcache, hstore, -⟩ := slice_eq_iff.1 h
  obtain ⟨hstore, hdown⟩ := Monitored.only_eq_iff.1 hstore
  refine ⟨first_of_slice h, fun later _ r hr ↦ ?_, ?_, fun hup ↦ hdown ▸ hup⟩
  · rwa [← Cache.get_slice, (Monitored.only_eq_iff.1 hcache).1, Cache.get_slice] at hr
  · rw [Store.record?, Store.record?, ← Store.get_slice, hstore, Store.get_slice]

theorem SameFor.askCache (h : SameFor now c t t') (d : CurrencyCode) :
    SameFor now c t (t'.askCache now d) := by
  refine h.of_cache fun later hlater r hr ↦ ?_
  rcases Monitored.getCache_cases t'.cache now d with hm | hm
  · exact hm ▸ hr
  · rw [hm, (Cache.sheds_get t'.cache.inner now d).get_eq hlater] at hr
    exact hr

theorem SameFor.getStore (h : SameFor now c t t') (d : CurrencyCode) :
    SameFor now c t { t' with store := (RateStore.get t'.store d).2 } :=
  h.of_store (congrArg (·.record? c) (Monitored.inner_getStore t'.store d))
    (Monitored.down_pass _ _ _ _)

theorem SameFor.listStore (h : SameFor now c t t') :
    SameFor now c t { t' with store := (RateStore.list t'.store).2 } :=
  h.of_store (congrArg (·.record? c) (Monitored.inner_listStore t'.store))
    (Monitored.down_pass _ _ _ _)

theorem SameFor.askStore (h : SameFor now c t t') (d : CurrencyCode) :
    SameFor now c t (t'.askStore now d) :=
  (h.askCache d).getStore d

theorem SameFor.rateOf (h : t.Keyed) (hd : c ≠ d) :
    SameFor now c t (t.rateOf p now mode d).2 :=
  .of_slice (slice_rateOf_of_ne h hd.symm)

theorem SameFor.record {code : String} {rate : Decimal} {provider : String}
    (hcode : CurrencyCode.parse? code ≠ some c) :
    SameFor now c t (t.record now code rate provider).2 :=
  .of_slice (slice_record_of_ne hcode)

end TieredRates.Tiers
