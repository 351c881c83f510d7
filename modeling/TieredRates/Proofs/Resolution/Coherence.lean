import TieredRates.Proofs.Cache.Memory
import TieredRates.Proofs.Resolution.Verdict
import TieredRates.Proofs.Store.Rows
import TieredRates.Proofs.Tier.Monitor

namespace TieredRates

namespace Policy

/-- A cached record of the currency may be trusted only if the store has it too. -/
def Backed (p : Policy) (s : Store) (c : CurrencyCode) (r : RateRecord) : Prop :=
  r.target = c ∧ (p.Trusts r → ∃ r', s.record? c = some r' ∧ r'.Agrees r)

variable {p : Policy} {s : Store} {c : CurrencyCode} {r : RateRecord}

theorem backed_of_not_trusts (h : ¬ p.Trusts r) : p.Backed s r.target r :=
  ⟨rfl, fun ht ↦ absurd ht h⟩

theorem backed_of_record? (ht : r.target = c) (h : s.record? c = some r) : p.Backed s c r :=
  ⟨ht, fun _ ↦ ⟨r, h, .refl r⟩⟩

theorem backed_put_self (h : s.Keeps r) : p.Backed (RateStore.put s r).2 r.target r :=
  ⟨rfl, fun _ ↦ ⟨_, Store.record?_put_self h, s.kept_agrees r⟩⟩

theorem Backed.put_of_ne {r' : RateRecord} (h : p.Backed s c r) (hc : c ≠ r'.target) :
    p.Backed (RateStore.put s r').2 c r := by
  refine ⟨h.1, fun ht ↦ ?_⟩
  obtain ⟨r₀, hr, ha⟩ := h.2 ht
  exact ⟨r₀, (Store.record?_put_of_ne hc).trans hr, ha⟩

end Policy

namespace Tiers

/-- The tiers are up, and what the caches hold is backed by the store. -/
structure Coherent (t : ServiceTiers) (p : Policy) : Prop where
  inMemory : t.cache.inner.InMemory
  cacheUp : t.cache.down = {}
  storeUp : t.store.down = {}
  target : ∀ c r, t.store.inner.record? c = some r → r.target = c
  first : ∀ c e, t.first.get? c = some e → p.Backed t.store.inner c e.record
  cache : ∀ c r, t.cache.inner.held? c = some r → p.Backed t.store.inner c r

variable {t : ServiceTiers} {p : Policy} {now : Instant} {mode : Mode} {c : CurrencyCode}
variable {r : RateRecord}

theorem Coherent.of_cache (h : t.Coherent p) {m : Monitored Cache} (hm : m.inner.InMemory)
    (hup : m.down = t.cache.down)
    (hheld : ∀ c r, m.inner.held? c = some r → t.cache.inner.held? c = some r) :
    Coherent { t with cache := m } p where
  __ := h
  inMemory := hm
  cacheUp := hup.trans h.cacheUp
  cache c r hr := h.cache c r (hheld c r hr)

theorem Coherent.of_store (h : t.Coherent p) {m : Monitored Store}
    (hinner : m.inner = t.store.inner) (hup : m.down = t.store.down) :
    Coherent { t with store := m } p where
  inMemory := h.inMemory
  cacheUp := h.cacheUp
  storeUp := hup.trans h.storeUp
  target := hinner ▸ h.target
  first := hinner ▸ h.first
  cache := hinner ▸ h.cache

theorem Coherent.of_source (h : t.Coherent p) (m : Monitored Registry) :
    Coherent { t with source := m } p :=
  { h with }

theorem Coherent.askCache (h : t.Coherent p) (now : Instant) (c : CurrencyCode) :
    (t.askCache now c).Coherent p := by
  have hinner : (SharedCache.get t.cache now c).2.inner = (SharedCache.get t.cache.inner now c).2 :=
    (Monitored.inner_getCache t.cache now c).trans (by rw [h.cacheUp]; rfl)
  refine h.of_cache ?_ (Monitored.down_pass _ _ _ _) fun d r hr ↦ ?_
  · rw [hinner, Cache.inMemory_get]
    exact h.inMemory
  · rw [hinner] at hr
    exact Cache.held?_of_get hr

theorem Coherent.askStore (h : t.Coherent p) (now : Instant) (c : CurrencyCode) :
    (t.askStore now c).Coherent p :=
  (h.askCache now c).of_store (Monitored.inner_getStore t.store c) (Monitored.down_pass _ _ _ _)

theorem Coherent.askSource (h : t.Coherent p) (now : Instant) (c : CurrencyCode) :
    (t.askSource now c).Coherent p :=
  (h.askStore now c).of_source _

theorem Coherent.fillFirst (h : t.Coherent p) (now : Instant)
    (hb : p.Backed t.store.inner r.target r) : (t.fillFirst now r).Coherent p where
  __ := h
  first c e he := by
    have hget : (FirstTier.cache t.first r now).get? c = some e := he
    rw [FirstTier.get?_cache] at hget
    split at hget
    · next hc =>
      subst hc
      obtain rfl := Option.some.inj hget
      exact hb
    · exact h.first c e hget

theorem Coherent.refill (h : t.Coherent p) (now : Instant) {s : Monitored Store}
    (hup : s.down = {}) (htarget : ∀ c r, s.inner.record? c = some r → r.target = c)
    (hother : ∀ c r', c ≠ r.target → p.Backed t.store.inner c r' → p.Backed s.inner c r')
    (hb : p.Backed s.inner r.target r) : ({ t with store := s }.fill now r).Coherent p := by
  have hinner : (SharedCache.put t.cache now r).2.inner = (SharedCache.put t.cache.inner now r).2 :=
    (Monitored.inner_putCache t.cache now r).trans (by rw [h.cacheUp]; rfl)
  refine ⟨?_, ?_, hup, htarget, fun c e he ↦ ?_, fun c r' hr ↦ ?_⟩
  · show (SharedCache.put t.cache now r).2.inner.InMemory
    rw [hinner, Cache.inMemory_put]
    exact h.inMemory
  · exact (Monitored.down_pass _ _ _ _).trans h.cacheUp
  · have hget : (FirstTier.cache t.first r now).get? c = some e := he
    rw [FirstTier.get?_cache] at hget
    split at hget
    · next hc =>
      subst hc
      obtain rfl := Option.some.inj hget
      exact hb
    · next hc => exact hother c e.record hc (h.first c e hget)
  · have hget : (SharedCache.put t.cache now r).2.inner.held? c = some r' := hr
    rw [hinner] at hget
    rcases Cache.held?_of_put hget with ⟨rfl, rfl⟩ | ⟨hc, hget⟩
    · exact hb
    · exact hother c r' hc (h.cache c r' hget)

theorem Coherent.fill (h : t.Coherent p) (now : Instant)
    (hb : p.Backed t.store.inner r.target r) : (t.fill now r).Coherent p :=
  h.refill now h.storeUp h.target (fun _ _ _ hr ↦ hr) hb

theorem Coherent.persist_fill (h : t.Coherent p) (now : Instant) (hr : t.store.inner.Keeps r) :
    ((t.persist r).fill now r).Coherent p := by
  have hinner : (RateStore.put t.store r).2.inner = (RateStore.put t.store.inner r).2 :=
    (Monitored.inner_putStore t.store r).trans (by rw [h.storeUp]; rfl)
  have hup : (RateStore.put t.store r).2.down = {} :=
    (Monitored.down_pass _ _ _ _).trans h.storeUp
  refine h.refill now hup ?_ ?_ ?_
  · intro c r' hr'
    rw [hinner] at hr'
    rcases Store.record?_put hr' with hr' | ⟨rfl, rfl⟩
    · exact h.target c r' hr'
    · exact Store.kept_target
  · intro c r' hc hb
    rw [hinner]
    exact hb.put_of_ne hc
  · rw [hinner]
    exact Policy.backed_put_self hr

theorem Coherent.backed_of_verdict (h : t.Coherent p) {o : Origin} (ho : o ≠ .source)
    (hv : t.verdict p now mode c = .found o r) : p.Backed t.store.inner c r := by
  have hr := candidate?_of_verdict hv
  cases o with
  | first =>
    obtain ⟨e, he, rfl, -⟩ := candidate?_first_eq_some_iff.1 hr
    exact h.first c e he
  | cache =>
    have hgot := (candidate?_cache_eq_some_iff.1 hr).1
    have hget := (Monitored.getCache_eq_ok_iff t.cache now c).1 hgot
    exact h.cache c r (Cache.held?_eq_of_get h.inMemory hget.2)
  | store =>
    have hgot := (candidate?_store_eq_some_iff.1 hr).1
    have hget := (Monitored.getStore_eq_ok_iff t.store c).1 hgot
    have hrecord := Store.record?_eq_some_iff.2 hget.2
    exact Policy.backed_of_record? (h.target c r hrecord) hrecord
  | source => exact absurd rfl ho

theorem Coherent.rateOf (h : t.Coherent p)
    (hkeeps : ∀ r, t.live now c = .ok r → t.store.inner.Keeps r) :
    (t.rateOf p now mode c).2.Coherent p := by
  by_cases hc : c = .usd
  · rw [hc, rateOf_usd]
    exact h
  rw [rateOf_eq hc]
  cases hv : t.verdict p now mode c with
  | refused r => exact h.askSource now c
  | failed e => exact h.askSource now c
  | found o r =>
    have hstore : (t.askStore now c).store.inner = t.store.inner :=
      Monitored.inner_getStore t.store c
    cases o with
    | first => exact h
    | cache =>
      have hb := h.backed_of_verdict (by decide) hv
      exact (h.askCache now c).fillFirst now (hb.1.symm ▸ hb)
    | store =>
      have hb := h.backed_of_verdict (by decide) hv
      refine (h.askStore now c).fill now ?_
      rw [hstore, hb.1]
      exact hb
    | source =>
      have hlive := (candidate?_source_eq_some_iff.1 (candidate?_of_verdict hv)).1
      simp only [after]
      split
      · refine (h.askSource now c).persist_fill now ?_
        show (t.askStore now c).store.inner.Keeps r
        rw [hstore]
        exact hkeeps r hlive
      · next ht => exact (h.askSource now c).fill now (Policy.backed_of_not_trusts ht)

theorem capturedAt_of_record {code : String} {rate : Decimal} {provider : String}
    (h : (t.record now code rate provider).1 = .ok r) : r.capturedAt = now :=
  (record_eq_ok_iff.1 h).1.capturedAt

theorem Coherent.record (h : t.Coherent p) {code : String} {rate : Decimal} {provider : String}
    (hkeeps : ∀ r, r.capturedAt = now → t.store.inner.Keeps r) :
    (t.record now code rate provider).2.Coherent p := by
  rcases t.record_cases now code rate provider with ⟨e, he⟩ | ⟨r, e, hp, -⟩ | ⟨r, hr, -, he⟩
  · rw [he]
    exact h
  · -- a store that is up takes everything
    rw [(Monitored.putStore_eq_ok_iff t.store r).2 (by rw [h.storeUp])] at hp
    exact absurd hp (by simp)
  · rw [he]
    exact h.persist_fill now (hkeeps r hr)

end Tiers

end TieredRates
