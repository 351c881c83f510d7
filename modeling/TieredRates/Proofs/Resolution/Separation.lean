import TieredRates.Proofs.Resolution.Keyed
import TieredRates.Proofs.Tier.Separation

namespace TieredRates.Tiers

/-- What the tiers and the source have for a currency, and which of them are switched off. -/
noncomputable def slice (c : CurrencyCode) (t : ServiceTiers) : ServiceTiers where
  first := t.first.only id c
  cache := t.cache.only (Cache.slice c)
  store := t.store.only (Store.slice c)
  source := t.source.only (Registry.slice c)

variable {t t' : ServiceTiers} {p : Policy} {now : Instant} {mode : Mode} {c d : CurrencyCode}
variable {r : RateRecord}

theorem slice_eq_iff : t.slice c = t'.slice c ↔
    t.first.only id c = t'.first.only id c ∧
    t.cache.only (Cache.slice c) = t'.cache.only (Cache.slice c) ∧
    t.store.only (Store.slice c) = t'.store.only (Store.slice c) ∧
    t.source.only (Registry.slice c) = t'.source.only (Registry.slice c) := by
  simp only [slice, mk.injEq]

/-- What the tiers and the source have, and which of them are switched off. How often they have been
asked is left out, and so are the commands that have been sent. -/
def contents (t : ServiceTiers) : ServiceTiers where
  first := t.first
  cache := t.cache.only Cache.contents
  store := t.store.only id
  source := t.source.only id

theorem contents_ext (h : ∀ c, t.slice c = t'.slice c) : t.contents = t'.contents := by
  simp only [slice_eq_iff, Monitored.only_eq_iff] at h
  have hfirst : t.first = t'.first := Table.ext_only id (fun _ _ ↦ id) fun c ↦ (h c).1
  have hcache : t.cache.only Cache.contents = t'.cache.only Cache.contents :=
    Monitored.only_eq_iff.2 ⟨Cache.contents_ext fun c ↦ (h c).2.1.1, (h .usd).2.1.2⟩
  have hstore : t.store.only id = t'.store.only id :=
    Monitored.only_eq_iff.2 ⟨Store.ext_slice fun c ↦ (h c).2.2.1.1, (h .usd).2.2.1.2⟩
  have hsource : t.source.only id = t'.source.only id :=
    Monitored.only_eq_iff.2 ⟨Registry.ext_slice fun c ↦ (h c).2.2.2.1, (h .usd).2.2.2.2⟩
  rw [contents, contents, hfirst, hcache, hstore, hsource]

section Others

theorem slice_askCache_of_ne (hd : d ≠ c) : (t.askCache now d).slice c = t.slice c :=
  slice_eq_iff.2 ⟨rfl, Monitored.only_getCache_of_ne hd, rfl, rfl⟩

theorem slice_askStore_of_ne (hd : d ≠ c) : (t.askStore now d).slice c = t.slice c :=
  slice_eq_iff.2 ⟨rfl, Monitored.only_getCache_of_ne hd, Monitored.only_getStore _, rfl⟩

theorem slice_askSource_of_ne (hd : d ≠ c) : (t.askSource now d).slice c = t.slice c :=
  slice_eq_iff.2 ⟨rfl, Monitored.only_getCache_of_ne hd, Monitored.only_getStore _,
    Monitored.only_fetch_of_ne hd⟩

theorem slice_fillFirst_of_ne (hr : r.target ≠ c) : (t.fillFirst now r).slice c = t.slice c :=
  slice_eq_iff.2 ⟨t.first.only_insert_of_ne id hr _, rfl, rfl, rfl⟩

theorem slice_fillCache_of_ne (hr : r.target ≠ c) : (t.fillCache now r).slice c = t.slice c :=
  slice_eq_iff.2 ⟨rfl, Monitored.only_putCache_of_ne hr, rfl, rfl⟩

theorem slice_fill_of_ne (hr : r.target ≠ c) : (t.fill now r).slice c = t.slice c :=
  (slice_fillFirst_of_ne hr).trans (slice_fillCache_of_ne hr)

theorem slice_persist_of_ne (hr : r.target ≠ c) : (t.persist r).slice c = t.slice c :=
  slice_eq_iff.2 ⟨rfl, rfl, Monitored.only_putStore_of_ne hr, rfl⟩

theorem slice_rateOf_of_ne (h : t.Keyed) (hd : d ≠ c) :
    (t.rateOf p now mode d).2.slice c = t.slice c := by
  by_cases husd : d = .usd
  · rw [husd, rateOf_usd]
  rw [rateOf_eq husd]
  cases hv : t.verdict p now mode d with
  | refused r => exact slice_askSource_of_ne hd
  | failed e => exact slice_askSource_of_ne hd
  | found o r =>
    have hr : r.target ≠ c := (h.target_of_verdict hv).symm ▸ hd
    cases o with
    | first => rfl
    | cache => exact (slice_fillFirst_of_ne hr).trans (slice_askCache_of_ne hd)
    | store => exact (slice_fill_of_ne hr).trans (slice_askStore_of_ne hd)
    | source =>
      have hask : (t.askSource now d).slice c = t.slice c := slice_askSource_of_ne hd
      simp only [after]
      split
      · exact (slice_fill_of_ne hr).trans ((slice_persist_of_ne hr).trans hask)
      · exact (slice_fill_of_ne hr).trans hask

theorem slice_record_of_ne {code : String} {rate : Decimal} {provider : String}
    (hcode : CurrencyCode.parse? code ≠ some c) :
    (t.record now code rate provider).2.slice c = t.slice c := by
  rw [record]
  cases hr : CurrencyCode.parse code >>= fun c ↦ RateRecord.make c rate provider now with
  | error e => rfl
  | ok r =>
    have hne : r.target ≠ c := by
      rintro rfl
      obtain ⟨d, hd, hmake⟩ := bind_eq_ok_iff.1 hr
      rw [(RateRecord.make_eq_ok hmake).1] at hcode
      exact hcode (CurrencyCode.parse_eq_ok_iff.1 hd)
    have hpersist : (t.persist r).slice c = t.slice c := slice_persist_of_ne hne
    simp only
    split
    · exact hpersist
    · exact (slice_fill_of_ne hne).trans hpersist

end Others

section Same

theorem slice_listStore (c : CurrencyCode) :
    slice c { t with store := (RateStore.list t.store).2 } = t.slice c :=
  slice_eq_iff.2 ⟨rfl, rfl, Monitored.only_listStore _, rfl⟩

variable (h : t.slice c = t'.slice c)

include h

theorem first_of_slice : t.first.get? c = t'.first.get? c := by
  have honly := (slice_eq_iff.1 h).1
  rw [← t.first.get?_only id c fun d ↦ Eq.symm, honly, t'.first.get?_only id c fun d ↦ Eq.symm]

theorem getCache_of_slice :
    (SharedCache.get t.cache now c).1 = (SharedCache.get t'.cache now c).1 :=
  (Monitored.getCache_congr (slice_eq_iff.1 h).2.1).1

theorem getStore_of_slice : (RateStore.get t.store c).1 = (RateStore.get t'.store c).1 :=
  (Monitored.getStore_congr (slice_eq_iff.1 h).2.2.1).1

theorem live_of_slice : t.live now c = t'.live now c :=
  (Monitored.fetch_congr (slice_eq_iff.1 h).2.2.2).1

theorem mapCache_of_slice {f : Cache → Cache} (hf : ∀ k, (f (k.slice c)).slice c = (f k).slice c) :
    slice c { t with cache := { t.cache with inner := f t.cache.inner } } =
      slice c { t' with cache := { t'.cache with inner := f t'.cache.inner } } := by
  obtain ⟨hfirst, hcache, hstore, hsource⟩ := slice_eq_iff.1 h
  obtain ⟨hinner, hdown⟩ := Monitored.only_eq_iff.1 hcache
  have hf' : (f t.cache.inner).slice c = (f t'.cache.inner).slice c := by rw [← hf, hinner, hf]
  exact slice_eq_iff.2 ⟨hfirst, Monitored.only_eq_iff.2 ⟨hf', hdown⟩, hstore, hsource⟩

theorem mapSource_of_slice {f : Registry → Registry}
    (hf : ∀ g, (f (g.slice c)).slice c = (f g).slice c) :
    slice c { t with source := { t.source with inner := f t.source.inner } } =
      slice c { t' with source := { t'.source with inner := f t'.source.inner } } := by
  obtain ⟨hfirst, hcache, hstore, hsource⟩ := slice_eq_iff.1 h
  obtain ⟨hinner, hdown⟩ := Monitored.only_eq_iff.1 hsource
  have hf' : (f t.source.inner).slice c = (f t'.source.inner).slice c := by rw [← hf, hinner, hf]
  exact slice_eq_iff.2 ⟨hfirst, hcache, hstore, Monitored.only_eq_iff.2 ⟨hf', hdown⟩⟩

theorem askCache_of_slice : (t.askCache now c).slice c = (t'.askCache now c).slice c := by
  obtain ⟨hfirst, hcache, hstore, hsource⟩ := slice_eq_iff.1 h
  exact slice_eq_iff.2 ⟨hfirst, (Monitored.getCache_congr hcache).2, hstore, hsource⟩

theorem getStore_tiers_of_slice : slice c { t with store := (RateStore.get t.store c).2 } =
    slice c { t' with store := (RateStore.get t'.store c).2 } := by
  obtain ⟨hfirst, hcache, hstore, hsource⟩ := slice_eq_iff.1 h
  exact slice_eq_iff.2 ⟨hfirst, hcache, (Monitored.getStore_congr hstore).2, hsource⟩

theorem fetch_tiers_of_slice : slice c { t with source := (LiveSource.fetch t.source now c).2 } =
    slice c { t' with source := (LiveSource.fetch t'.source now c).2 } := by
  obtain ⟨hfirst, hcache, hstore, hsource⟩ := slice_eq_iff.1 h
  exact slice_eq_iff.2 ⟨hfirst, hcache, hstore, (Monitored.fetch_congr hsource).2⟩

theorem askStore_of_slice : (t.askStore now c).slice c = (t'.askStore now c).slice c :=
  getStore_tiers_of_slice (askCache_of_slice h)

theorem askSource_of_slice : (t.askSource now c).slice c = (t'.askSource now c).slice c :=
  fetch_tiers_of_slice (askStore_of_slice h)

theorem fillFirst_of_slice : (t.fillFirst now r).slice c = (t'.fillFirst now r).slice c := by
  obtain ⟨hfirst, hrest⟩ := slice_eq_iff.1 h
  refine slice_eq_iff.2 ⟨?_, hrest⟩
  show (t.first.insert r.target _).only id c = (t'.first.insert r.target _).only id c
  rw [← Table.only_insert_only, hfirst, Table.only_insert_only]

theorem fillCache_of_slice : (t.fillCache now r).slice c = (t'.fillCache now r).slice c := by
  obtain ⟨hfirst, hcache, hstore, hsource⟩ := slice_eq_iff.1 h
  exact slice_eq_iff.2 ⟨hfirst, (Monitored.putCache_congr hcache).2, hstore, hsource⟩

theorem fill_of_slice : (t.fill now r).slice c = (t'.fill now r).slice c :=
  fillFirst_of_slice (fillCache_of_slice h)

theorem persist_of_slice : (t.persist r).slice c = (t'.persist r).slice c := by
  obtain ⟨hfirst, hcache, hstore, hsource⟩ := slice_eq_iff.1 h
  exact slice_eq_iff.2 ⟨hfirst, hcache, (Monitored.putStore_congr hstore).2, hsource⟩

theorem after_of_slice (p : Policy) (now : Instant) (v : Verdict) :
    (t.after p now c v).slice c = (t'.after p now c v).slice c := by
  have hsource : (t.askSource now c).slice c = (t'.askSource now c).slice c := askSource_of_slice h
  cases v with
  | refused r => exact hsource
  | failed e => exact hsource
  | found o r =>
    cases o with
    | first => exact h
    | cache => exact fillFirst_of_slice (askCache_of_slice h)
    | store => exact fill_of_slice (askStore_of_slice h)
    | source =>
      simp only [after]
      split
      · exact fill_of_slice (persist_of_slice hsource)
      · exact fill_of_slice hsource

theorem rateOf_of_slice (p : Policy) (now : Instant) (mode : Mode) :
    (t.rateOf p now mode c).1 = (t'.rateOf p now mode c).1 ∧
      (t.rateOf p now mode c).2.slice c = (t'.rateOf p now mode c).2.slice c := by
  by_cases hc : c = .usd
  · subst hc
    rw [rateOf_usd, rateOf_usd]
    exact ⟨rfl, h⟩
  have hfirst : t.lookFirst p now mode c = t'.lookFirst p now mode c := by
    rw [lookFirst, lookFirst, first_of_slice h]
  have hcache : t.lookCache p now mode c = t'.lookCache p now mode c := by
    rw [lookCache, lookCache, getCache_of_slice h]
  have hstore : t.lookStore p now mode c = t'.lookStore p now mode c := by
    rw [lookStore, lookStore, getStore_of_slice h]
  have hverdict : t.verdict p now mode c = t'.verdict p now mode c := by
    rw [verdict, verdict, hfirst, hcache, hstore, live_of_slice h]
  have hseen : t.seen p now mode c = t'.seen p now mode c := by
    rw [seen, seen, hfirst, hcache]
  rw [rateOf_eq hc, rateOf_eq hc, ← hverdict]
  refine ⟨?_, after_of_slice h p now _⟩
  cases t.verdict p now mode c with
  | found o r => rfl
  | refused r => rfl
  | failed e => simp only [answer, hstore, hseen]

theorem recordsWithin_of_slice (hk : t.Keyed) (hk' : t'.Keyed) (window : Int) (now : Instant) :
    (FirstTier.recordsWithin t.first window now).filter (·.target = c) =
      (FirstTier.recordsWithin t'.first window now).filter (·.target = c) := by
  have hvalues {t : ServiceTiers} (hk : t.Keyed) :
      (t.first.only id c).values.filter (·.record.target = c) =
        t.first.values.filter (·.record.target = c) := by
    refine t.first.filter_values_only id c fun e he d hd hc ↦ ?_
    have htarget := hk.first e.1 e.2 (Table.get?_eq_some_iff.2 he)
    exact hd.symm.trans (htarget.symm.trans hc)
  have hfirst : t.first.values.filter (·.record.target = c) =
      t'.first.values.filter (·.record.target = c) := by
    rw [← hvalues hk, (slice_eq_iff.1 h).1, hvalues hk']
  simp only [FirstTier.recordsWithin, List.filter_map, Function.comp_def]
  rw [List.filter_comm, hfirst, List.filter_comm]

theorem rates_of_slice (hk : t.Keyed) (hk' : t'.Keyed) (p : Policy) (now : Instant) :
    (t.rates p now).1.get? c = (t'.rates p now).1.get? c := by
  have hfirst := recordsWithin_of_slice h hk hk' p.l1Window now
  have hlist := (Monitored.listStore_congr hk.store hk'.store (slice_eq_iff.1 h).2.2.1).1
  rw [rates, rates]
  simp only [Table.get?_foldl_insertNew, hfirst]
  congr 1
  cases hrs : (RateStore.list t.store).1 with
  | error e =>
    cases hrs' : (RateStore.list t'.store).1 with
    | error e' => rfl
    | ok rs' =>
      rw [hrs, hrs'] at hlist
      exact nomatch hlist
  | ok rs =>
    cases hrs' : (RateStore.list t'.store).1 with
    | error e' =>
      rw [hrs, hrs'] at hlist
      exact nomatch hlist
    | ok rs' =>
      rw [hrs, hrs'] at hlist
      have hfilter : rs.filter (·.target = c) = rs'.filter (·.target = c) := Except.ok.inj hlist
      simp only [Table.ofList, List.foldl_map]
      rw [Table.get?_foldl_insert, hfilter, Table.get?_foldl_insert]

theorem record_of_slice (now : Instant) (code : String) (rate : Decimal) (provider : String) :
    (t.record now code rate provider).1 = (t'.record now code rate provider).1 ∧
      (t.record now code rate provider).2.slice c =
        (t'.record now code rate provider).2.slice c := by
  rw [record, record]
  cases CurrencyCode.parse code >>= fun c ↦ RateRecord.make c rate provider now with
  | error e => exact ⟨rfl, h⟩
  | ok r =>
    have hput : (RateStore.put t.store r).1 = (RateStore.put t'.store r).1 :=
      (Monitored.putStore_congr (slice_eq_iff.1 h).2.2.1).1
    have hpersist : (t.persist r).slice c = (t'.persist r).slice c := persist_of_slice h
    simp only [hput]
    split
    · exact ⟨rfl, hpersist⟩
    · exact ⟨rfl, fill_of_slice hpersist⟩

end Same

end TieredRates.Tiers
