import TieredRates.Proofs.Resolution.Others
import TieredRates.Proofs.Resolution.Strict

namespace TieredRates

theorem RateRecord.Agrees.freshWithin {r r' : RateRecord} (h : r'.Agrees r) {window : Int}
    {now : Instant} : r'.FreshWithin window now ↔ r.FreshWithin window now := by
  rw [FreshWithin, FreshWithin, age, age, h.capturedAt]

theorem Policy.accepts_of_authority?_none {p : Policy} {r : RateRecord} {c : CurrencyCode}
    (h : p.authority? c = none) (hr : r.target = c) (mode : Mode) : p.Accepts mode r := by
  intro _ provider hprovider
  rw [hr, h] at hprovider
  exact absurd hprovider (by simp)

namespace Tiers

/-- The store has the record `r`. What the second tier gives for its currency from now on is `r` or
satisfies `Left`, and what the first tier has for it is `r` or satisfies `Old`. -/
structure Recalls (t : ServiceTiers) (now : Instant) (r : RateRecord)
    (Left Old : RateRecord → Prop) : Prop where
  keyed : t.Keyed
  storeUp : t.store.down.gets = false
  store : ∃ r', t.store.inner.record? r.target = some r' ∧ r'.Agrees r
  cache : ∀ later, now ≤ later → ∀ r',
    (SharedCache.get t.cache.inner later r.target).1 = .ok (some r') → r'.Agrees r ∨ Left r'
  first : ∀ e, t.first.get? r.target = some e → e.record.Agrees r ∨ Old e.record

def Recalled (r : RateRecord) (Left Old : RateRecord → Prop) : Origin → RateRecord → Prop
  | .first, r' => r'.Agrees r ∨ Old r'
  | .cache, r' => r'.Agrees r ∨ Left r'
  | .store, r' => r'.Agrees r
  | .source, _ => False

variable {t t' : ServiceTiers} {p : Policy} {now later : Instant} {mode : Mode} {c : CurrencyCode}
variable {r r' : RateRecord} {Left Old : RateRecord → Prop}

theorem Recalls.mono (h : t.Recalls now r Left Old) (hlater : now ≤ later) :
    t.Recalls later r Left Old :=
  { h with cache := fun u hu ↦ h.cache u (Instant.le_trans hlater hu) }

theorem Recalls.of_sameFor (h : t.Recalls now r Left Old) (hkeyed : t'.Keyed)
    (hsame : SameFor now r.target t t') : t'.Recalls now r Left Old where
  keyed := hkeyed
  storeUp := hsame.storeUp h.storeUp
  store := hsame.store.symm ▸ h.store
  cache u hu r' hr' := h.cache u hu r' (hsame.cache u hu r' hr')
  first := hsame.first.symm ▸ h.first

theorem Recalls.fillFirst (h : t.Recalls now r Left Old) (hr : r'.Agrees r ∨ Old r')
    (at_ : Instant) : (t.fillFirst at_ r').Recalls now r Left Old where
  __ := h
  keyed := h.keyed.fillFirst at_ r'
  first e he := by
    have hget : (FirstTier.cache t.first r' at_).get? r.target = some e := he
    rw [FirstTier.get?_cache] at hget
    split at hget
    · exact Option.some.inj hget ▸ hr
    · exact h.first e hget

theorem Recalls.fill (h : t.Recalls now r Left Old) (hr : r'.Agrees r) :
    (t.fill now r').Recalls now r Left Old := by
  have hcache : (t.fillCache now r').Recalls now r Left Old := by
    refine { h with keyed := h.keyed.fillCache now r', cache := fun u hu r'' hr'' ↦ ?_ }
    rcases Monitored.putCache_cases t.cache now r' with hm | hm
    · exact h.cache u hu r'' (hm ▸ hr'')
    · have hget : (SharedCache.get (SharedCache.put t.cache.inner now r').2 u r.target).1 =
          .ok (some r'') := hm ▸ hr''
      by_cases hc : r.target = r'.target
      · rw [hc] at hget
        exact .inl ((Cache.agrees_of_get_put hget).trans hr)
      · rw [Cache.get_put_of_ne hc] at hget
        exact h.cache u hu r'' hget
  exact hcache.fillFirst (.inl hr) now

theorem Recalls.found (h : t.Recalls now r Left Old) (hopen : p.authority? r.target = none)
    (hfresh : r.FreshWithin p.syncInterval now) (mode : Mode) :
    ∃ o r', t.verdict p now mode r.target = .found o r' ∧ Recalled r Left Old o r' := by
  obtain ⟨r₁, hr₁, hagrees⟩ := h.store
  have hstore : t.candidate? p now mode r.target .store = some r₁ := by
    refine candidate?_store_eq_some_iff.2 ⟨?_, ?_, hagrees.freshWithin.2 hfresh⟩
    · exact (Monitored.getStore_eq_ok_iff t.store r.target).2
        ⟨h.storeUp, Store.record?_eq_some_iff.1 hr₁⟩
    · exact Policy.accepts_of_authority?_none hopen (h.keyed.store _ _ hr₁) mode
  obtain ⟨o, r', hv⟩ := exists_found_of_candidate? hstore
  refine ⟨o, r', hv, ?_⟩
  have hr := candidate?_of_verdict hv
  cases o with
  | first =>
    obtain ⟨e, he, rfl, -⟩ := candidate?_first_eq_some_iff.1 hr
    exact h.first e he
  | cache =>
    have hgot := (candidate?_cache_eq_some_iff.1 hr).1
    have hget := (Monitored.getCache_eq_ok_iff t.cache now r.target).1 hgot
    exact h.cache now (Instant.le_refl now) r' hget.2
  | store => exact Option.some.inj (hstore.symm.trans hr) ▸ hagrees
  | source =>
    have hnone := (verdict_eq_found_iff.1 hv).2 .store (by decide)
    exact absurd (hstore.symm.trans hnone) (by simp)

theorem Recalls.rateOf (h : t.Recalls now r Left Old) (hopen : p.authority? r.target = none)
    (hfresh : r.FreshWithin p.syncInterval now)
    (hold : ∀ r', Left r' → t.verdict p now mode r.target = .found .cache r' → Old r') :
    (t.rateOf p now mode r.target).2.Recalls now r Left Old := by
  obtain ⟨o, r', hv, hr⟩ := h.found hopen hfresh mode
  have hsame := SameFor.refl now r.target t
  rw [rateOf_eq r.target_ne, hv]
  cases o with
  | first => exact h
  | cache =>
    have hask := h.of_sameFor (h.keyed.askCache now r.target) (hsame.askCache r.target)
    exact hask.fillFirst (hr.imp_right fun hleft ↦ hold r' hleft hv) now
  | store =>
    have hask := h.of_sameFor (h.keyed.askStore now r.target) (hsame.askStore r.target)
    exact hask.fill hr
  | source => exact hr.elim

theorem record_eq_of_ok {code : String} {rate : Decimal} {provider : String}
    (h : (t.record now code rate provider).1 = .ok r) : t.store.down.puts = false ∧
      (t.record now code rate provider).2 = (t.persist r).fill now r := by
  obtain ⟨hnotes, hput⟩ := record_eq_ok_iff.1 h
  rw [record_of_taken hnotes hput]
  exact ⟨(Monitored.putStore_eq_ok_iff t.store r).1 hput, rfl⟩

theorem first_fill : (t.fill now r).first.get? r.target = some ⟨r, now⟩ :=
  (FirstTier.get?_cache t.first r now r.target).trans (if_pos rfl)

theorem recalls_record (hkeyed : t.Keyed) (hgets : t.store.down.gets = false)
    (hputs : t.store.down.puts = false) (hkeeps : t.store.inner.Keeps r) :
    ((t.persist r).fill now r).Recalls now r (fun r' ↦ t.cache.down.puts = true ∧
      (SharedCache.get t.cache.inner now r.target).1 = .ok (some r')) Old where
  keyed := (hkeyed.persist r).fill now r
  storeUp := (congrArg Outage.gets (Monitored.down_pass _ _ _ _)).trans hgets
  store := by
    have hinner : (RateStore.put t.store r).2.inner = (RateStore.put t.store.inner r).2 :=
      (Monitored.inner_putStore t.store r).trans (if_neg (by simp [hputs]))
    exact ⟨_, hinner ▸ Store.record?_put_self hkeeps, t.store.inner.kept_agrees r⟩
  cache u hu r' hr' := by
    have hget : (SharedCache.get (SharedCache.put t.cache now r).2.inner u r.target).1 =
      .ok (some r') := hr'
    rw [Monitored.inner_putCache] at hget
    split at hget
    · next hdown => exact .inr ⟨hdown, Cache.get_of_later hu hget⟩
    · exact .inl (Cache.agrees_of_get_put hget)
  first e he := .inl (Option.some.inj (first_fill.symm.trans he) ▸ .refl r)

theorem verdict_of_first {e : Cached} (he : t.first.get? c = some e)
    (ha : p.Accepts mode e.record) (hw : e.Within p.l1Window now) :
    t.verdict p now mode c = .found .first e.record :=
  verdict_eq_found_iff.2
    ⟨candidate?_first_eq_some_iff.2 ⟨e, he, rfl, ha, hw⟩, fun _ ho ↦ absurd ho (Nat.not_lt_zero _)⟩

end Tiers

end TieredRates
