import TieredRates.Proofs.Cache.Laws
import TieredRates.Proofs.Session.Providers
import TieredRates.Proofs.Store.Rows

namespace TieredRates.Tiers

/-- Every record in the tiers, and every one that the source hands out, is filed under its own
currency. -/
structure Keyed (t : ServiceTiers) : Prop where
  first : ∀ c e, t.first.get? c = some e → e.record.target = c
  cache : t.cache.inner.Keyed
  store : t.store.inner.Keyed
  source : t.source.inner.Every Provider.Keyed

variable {t : ServiceTiers} {p : Policy} {now : Instant} {mode : Mode} {c : CurrencyCode}
variable {r : RateRecord}

theorem Keyed.target_of_verdict (h : t.Keyed) {o : Origin}
    (hv : t.verdict p now mode c = .found o r) : r.target = c := by
  have hr := candidate?_of_verdict hv
  cases o with
  | first =>
    obtain ⟨e, he, rfl, -⟩ := candidate?_first_eq_some_iff.1 hr
    exact h.first c e he
  | cache =>
    have hgot := (candidate?_cache_eq_some_iff.1 hr).1
    exact h.cache.target ((Monitored.getCache_eq_ok_iff t.cache now c).1 hgot).2
  | store =>
    have hgot := (candidate?_store_eq_some_iff.1 hr).1
    have hget := (Monitored.getStore_eq_ok_iff t.store c).1 hgot
    exact h.store c r (Store.record?_eq_some_iff.2 hget.2)
  | source => exact h.source.answer_target (answer_of_verdict hv)

theorem Keyed.of_cache (h : t.Keyed) {m : Monitored Cache} (hm : m.inner.Keyed) :
    Keyed { t with cache := m } :=
  { h with cache := hm }

theorem Keyed.of_store (h : t.Keyed) {m : Monitored Store} (hm : m.inner.Keyed) :
    Keyed { t with store := m } :=
  { h with store := hm }

theorem Keyed.of_source (h : t.Keyed) {m : Monitored Registry}
    (hm : m.inner.Every Provider.Keyed) : Keyed { t with source := m } :=
  { h with source := hm }

theorem Keyed.askCache (h : t.Keyed) (now : Instant) (c : CurrencyCode) :
    (t.askCache now c).Keyed := by
  refine h.of_cache ?_
  rcases Monitored.getCache_cases t.cache now c with hm | hm
  · exact hm ▸ h.cache
  · exact hm ▸ h.cache.get now c

theorem Keyed.askStore (h : t.Keyed) (now : Instant) (c : CurrencyCode) :
    (t.askStore now c).Keyed :=
  (h.askCache now c).of_store ((Monitored.inner_getStore t.store c).symm ▸ h.store)

theorem Keyed.askSource (h : t.Keyed) (now : Instant) (c : CurrencyCode) :
    (t.askSource now c).Keyed :=
  (h.askStore now c).of_source (every_fetch Provider.stable_keyed h.source now c)

theorem Keyed.fillFirst (h : t.Keyed) (now : Instant) (r : RateRecord) :
    (t.fillFirst now r).Keyed where
  __ := h
  first := FirstTier.Keyed.cache h.first r now

theorem Keyed.fillCache (h : t.Keyed) (now : Instant) (r : RateRecord) :
    (t.fillCache now r).Keyed := by
  refine h.of_cache ?_
  rcases Monitored.putCache_cases t.cache now r with hm | hm
  · exact hm ▸ h.cache
  · exact hm ▸ h.cache.put now r

theorem Keyed.fill (h : t.Keyed) (now : Instant) (r : RateRecord) : (t.fill now r).Keyed :=
  (h.fillCache now r).fillFirst now r

theorem Keyed.persist (h : t.Keyed) (r : RateRecord) : (t.persist r).Keyed := by
  refine h.of_store ?_
  rcases Monitored.putStore_cases t.store r with hm | hm
  · exact hm ▸ h.store
  · exact hm ▸ h.store.put r

theorem Keyed.after (h : t.Keyed) (p : Policy) (now : Instant) (c : CurrencyCode) (v : Verdict) :
    (t.after p now c v).Keyed := by
  cases v with
  | refused r => exact h.askSource now c
  | failed e => exact h.askSource now c
  | found o r =>
    cases o with
    | first => exact h
    | cache => exact (h.askCache now c).fillFirst now r
    | store => exact (h.askStore now c).fill now r
    | source =>
      simp only [Tiers.after]
      split
      · exact ((h.askSource now c).persist r).fill now r
      · exact (h.askSource now c).fill now r

theorem Keyed.rateOf (h : t.Keyed) : (t.rateOf p now mode c).2.Keyed := by
  by_cases hc : c = .usd
  · rw [hc, rateOf_usd]
    exact h
  · rw [rateOf_eq hc]
    exact h.after p now c _

theorem Keyed.record (h : t.Keyed) (now : Instant) (code : String) (rate : Decimal)
    (provider : String) : (t.record now code rate provider).2.Keyed := by
  rcases t.record_cases now code rate provider with ⟨e, he⟩ | ⟨r, e, -, he⟩ | ⟨r, -, -, he⟩
  · exact he ▸ h
  · exact he ▸ h.persist r
  · exact he ▸ (h.persist r).fill now r

end TieredRates.Tiers
