import TieredRates.Proofs.Cache.Laws
import TieredRates.Proofs.Resolution.Frame
import TieredRates.Proofs.Resolution.NonStrict
import TieredRates.Proofs.Store.Rows

namespace TieredRates

namespace RemoteCache

variable {k : RemoteCache} {now : Instant} {c : CurrencyCode} {r : RateRecord}

def without (k : RemoteCache) (c : CurrencyCode) : RemoteCache :=
  { k with server := k.server.erase c.cacheKey }

def Holds (k : RemoteCache) (c : CurrencyCode) (r : RateRecord) : Prop :=
  ∃ e, k.server.get? c.cacheKey = some e ∧ Payload.decode c e.value = .ok r

theorem get_without : (k.without c).get now c = .ok none := by
  rw [get, without, KeyValueServer.value?, Table.get?_erase_self]

theorem holds_put : (k.put now r).Holds r.target r.undated :=
  ⟨_, Table.get?_insert_self .., Payload.decode_encode r⟩

end RemoteCache

namespace RowStore

variable {s : RowStore} {c : CurrencyCode} {r : RateRecord}

def without (s : RowStore) (c : CurrencyCode) : RowStore := ⟨s.rows.erase (.of c)⟩

def Holds (s : RowStore) (c : CurrencyCode) (r : RateRecord) : Prop :=
  ∃ row, s.rows.get? (.of c) = some row ∧ row.decode (.of c) = .ok r

theorem get_without : (s.without c).get c = .ok none := by
  rw [get, without, Table.get?_erase_self]

theorem get_eq_ok_some_iff : s.get c = .ok (some r) ↔ s.Holds c r := by
  rw [get, Holds]
  cases s.rows.get? (.of c) with
  | none => simp
  | some row =>
    cases hd : row.decode (.of c) <;> simp [hd]

theorem holds_put (h : r.capturedAt.HasPlainYear) : (s.put r).Holds r.target r.undated :=
  ⟨_, Table.get?_insert_self .., Row.decode_ofRecord h⟩

theorem Holds.target (h : s.Holds c r) : r.target = c := by
  obtain ⟨row, -, hd⟩ := h
  exact Row.target_of_decode hd

theorem Holds.undated (h : s.Holds c r) : r.undated = r := by
  obtain ⟨row, -, hd⟩ := h
  rw [Row.decode] at hd
  split at hd
  · split at hd
    · obtain ⟨d, -, hmake⟩ := bind_eq_ok_iff.1 (mapError_eq_ok_iff.1 hd)
      exact RateRecord.undated_of_make hmake
    · simp at hd
  · simp at hd

end RowStore

namespace Faulty

theorem readable?_pass {ε α : Type} (m : Faulty ε α) (failure : Option (Failure ε))
    (request : α → Except ε (Option RateRecord) × α) : readable? (m.pass failure request).1 =
      if failure.isSome then none else readable? (request m.inner).1 := by
  rw [pass_fst]
  cases failure <;> rfl

theorem inner_pass {ε α β : Type} (m : Faulty ε α) {failure : Option (Failure ε)}
    (h : failure = none) (request : α → Except ε β × α) :
    (m.pass failure request).2.inner = (request m.inner).2 := by
  subst h
  rfl

theorem putFailure_pass {ε α β : Type} (m : Faulty ε α) (failure : Option (Failure ε))
    (request : α → Except ε β × α) : (m.pass failure request).2.putFailure = m.putFailure := by
  rcases m.pass_snd failure request with h | h
  · rw [h]
  · rw [h]

end Faulty

namespace Tiers

variable {π : Type} [LiveSource π]

abbrev OfTexts (π : Type) := Tiers (Faulty CacheError RemoteCache) (Faulty StoreError RowStore) π

def withTexts (t : OfTexts π) (k : RemoteCache) (s : RowStore) : OfTexts π :=
  { t with cache := { t.cache with inner := k }, store := { t.store with inner := s } }

variable {t : OfTexts π} {p : Policy} {now : Instant} {mode : Mode} {c : CurrencyCode}
variable {r : RateRecord} {k : RemoteCache} {s : RowStore}

section Lines

omit [LiveSource π]

theorem readable?_getCache : readable? (SharedCache.get t.cache now c).1 =
    if t.cache.getFailure.isSome then none else readable? (t.cache.inner.get now c) :=
  t.cache.readable?_pass t.cache.getFailure fun k ↦ SharedCache.get k now c

theorem readable?_getStore : readable? (RateStore.get t.store c).1 =
    if t.store.getFailure.isSome then none else readable? (t.store.inner.get c) :=
  t.store.readable?_pass t.store.getFailure fun s ↦ RateStore.get s c

theorem get_of_getCache (h : (SharedCache.get t.cache now c).1 = .ok (some r)) :
    t.cache.inner.get now c = .ok (some r) := by
  rw [← readable?_eq_some_iff, readable?_getCache] at h
  split at h
  · simp at h
  · exact readable?_eq_some_iff.1 h

theorem holds_of_getStore (h : (RateStore.get t.store c).1 = .ok (some r)) :
    t.store.inner.Holds c r := by
  rw [← readable?_eq_some_iff, readable?_getStore] at h
  split at h
  · simp at h
  · exact RowStore.get_eq_ok_some_iff.1 (readable?_eq_some_iff.1 h)

theorem lookCache_withTexts
    (h : readable? (k.get now c) = readable? (t.cache.inner.get now c)) :
    (t.withTexts k s).lookCache p now mode c = t.lookCache p now mode c := by
  rw [lookCache, lookCache, Lookup.inCache_eq, Lookup.inCache_eq, readable?_getCache,
    readable?_getCache, withTexts, h]

theorem lookStore_withTexts (h : readable? (s.get c) = readable? (t.store.inner.get c)) :
    (t.withTexts k s).lookStore p now mode c = t.lookStore p now mode c := by
  rw [lookStore, lookStore, Lookup.inStore_eq, Lookup.inStore_eq, readable?_getStore,
    readable?_getStore, withTexts, h]

theorem holds_cache (hput : t.cache.putFailure = none) :
    (SharedCache.put (SharedCache.get t.cache now c).2 now r).2.inner.Holds r.target
      r.undated := by
  have hline : (SharedCache.get t.cache now c).2.putFailure = none :=
    (t.cache.putFailure_pass _ _).trans hput
  have hinner : (SharedCache.put (SharedCache.get t.cache now c).2 now r).2.inner =
      (SharedCache.get t.cache now c).2.inner.put now r := Faulty.inner_pass _ hline _
  rw [hinner]
  exact RemoteCache.holds_put

theorem holds_store (hput : t.store.putFailure = none) (hyear : r.capturedAt.HasPlainYear) :
    (RateStore.put (RateStore.get t.store c).2 r).2.inner.Holds r.target r.undated := by
  have hline : (RateStore.get t.store c).2.putFailure = none :=
    (t.store.putFailure_pass _ _).trans hput
  have hinner : (RateStore.put (RateStore.get t.store c).2 r).2.inner =
      (RateStore.get t.store c).2.inner.put r := Faulty.inner_pass _ hline _
  rw [hinner]
  exact RowStore.holds_put hyear

end Lines

theorem rateOf_withTexts (hcache : readable? (k.get now c) = readable? (t.cache.inner.get now c))
    (hstore : readable? (s.get c) = readable? (t.store.inner.get c)) :
    ((t.withTexts k s).rateOf p now mode c).1 = (t.rateOf p now mode c).1 ∧
      ((t.withTexts k s).rateOf p now mode c).2.first = (t.rateOf p now mode c).2.first ∧
      ((t.withTexts k s).rateOf p now mode c).2.source = (t.rateOf p now mode c).2.source := by
  have hserver : (t.withTexts k s).lookCache p now mode c = t.lookCache p now mode c :=
    lookCache_withTexts hcache
  have hrows : (t.withTexts k s).lookStore p now mode c = t.lookStore p now mode c :=
    lookStore_withTexts hstore
  have hkept : (t.withTexts k s).first = t.first := rfl
  obtain ⟨hverdict, hanswer, hfirst⟩ := rateOf_congr hkept hserver hrows rfl
  refine ⟨hanswer, hfirst, ?_⟩
  by_cases hc : c = .usd
  · subst hc
    rw [rateOf_usd, rateOf_usd]
    rfl
  · rw [rateOf_eq hc, rateOf_eq hc, after_source, after_source, hverdict]
    rfl

/-- What a server or a database may hold for a currency besides records does no harm: an entry or a
row that tells of no record of the currency is as good as none, and what the store or the source
gives goes over it. A row tells of the record again only if the year of its time has four digits. -/
theorem resolve_repairs (t : OfTexts π) (p : Policy) (now : Instant) (mode : Mode) {code : String}
    (hcode : CurrencyCode.parse code = .ok c) :
    ((∀ r, (SharedCache.get t.cache now c).1 = .ok (some r) → r.target = c ∧ r.rate.IsPositive) ∧
      ∀ r, (RateStore.get t.store c).1 = .ok (some r) → r.target = c ∧ r.rate.IsPositive) ∧
    (∀ k s,
      (k = t.cache.inner ∨
        k = t.cache.inner.without c ∧ readable? (t.cache.inner.get now c) = none) →
      (s = t.store.inner ∨
        s = t.store.inner.without c ∧ readable? (t.store.inner.get c) = none) →
      ((t.withTexts k s).resolve p now mode code).1 = (t.resolve p now mode code).1 ∧
      ((t.withTexts k s).resolve p now mode code).2.first =
        (t.resolve p now mode code).2.first ∧
      ((t.withTexts k s).resolve p now mode code).2.source =
        (t.resolve p now mode code).2.source) ∧
    (∀ r, t.verdict p now mode c = .found .store r → t.cache.putFailure = none →
      (t.resolve p now mode code).2.cache.inner.Holds c r) ∧
    ∀ r, t.verdict p now mode c = .found .source r → r.target = c → p.TrustsFor c r →
      t.cache.putFailure = none → t.store.putFailure = none →
      (t.resolve p now mode code).2.cache.inner.Holds c r.undated ∧
      (r.capturedAt.HasPlainYear → (t.resolve p now mode code).2.store.inner.Holds c r.undated) := by
  simp only [resolve_eq_rateOf hcode]
  refine ⟨⟨fun r hr ↦ ?_, fun r hr ↦ ?_⟩, fun k s hk hs ↦ ?_, fun r hv hput ↦ ?_,
    fun r hv hr htrusts hcache hstore ↦ ?_⟩
  · exact ⟨RemoteCache.target_of_get (get_of_getCache hr), r.rate_pos⟩
  · exact ⟨(holds_of_getStore hr).target, r.rate_pos⟩
  · refine rateOf_withTexts ?_ ?_
    · rcases hk with rfl | ⟨rfl, hnone⟩
      · rfl
      · rw [RemoteCache.get_without, hnone, readable?]
    · rcases hs with rfl | ⟨rfl, hnone⟩
      · rfl
      · rw [RowStore.get_without, hnone, readable?]
  · -- the row has no day of quotation, so the payload that is made of it loses nothing
    have hstored : t.store.inner.Holds c r :=
      holds_of_getStore (candidate?_store_eq_some_iff.1 (candidate?_of_verdict hv)).1
    obtain rfl := hstored.target
    rw [rateOf_eq r.target_ne, after_cache, hv]
    have hcache : (SharedCache.put (SharedCache.get t.cache now r.target).2 now r).2.inner.Holds
        r.target r.undated := holds_cache hput
    rw [hstored.undated] at hcache
    exact hcache
  · subst hr
    have htrusted : p.Trusts r := Policy.trusts_iff.2 htrusts
    rw [rateOf_eq r.target_ne, after_cache, after_store, hv]
    refine ⟨holds_cache hcache, fun hyear ↦ ?_⟩
    simp only [if_pos htrusted]
    exact holds_store hstore hyear

end Tiers

section Won

def spoiltTiers (row : Row) (capturedAt : Instant) : Tiers.OfTexts Registry where
  first := ∅
  cache := { inner := { RemoteCache.empty (Span.ofSeconds 60) with
    server := KeyValueServer.set ∅ won.cacheKey "rate" } }
  store := { inner := ⟨Table.insert ∅ (.of won) row⟩ }
  source := ⟨[.canned "bank" (Table.insert ∅ won (wonRecord "bank" 350 capturedAt))]⟩

def spoiltRow : Row := ⟨"-1300", "bank", "1970-01-10T00:00:00Z"⟩

def soundRow : Row := .ofRecord (wonRecord "bank" 340 (midnight 8))

theorem resolve_repairs_won :
    CurrencyCode.parse "KRW" = .ok won ∧
      (((spoiltTiers spoiltRow (midnight 9)).withTexts
          ((spoiltTiers spoiltRow (midnight 9)).cache.inner.without won)
          ((spoiltTiers spoiltRow (midnight 9)).store.inner.without won)).resolve
            bankPolicy (midnight 9) .strict "KRW").1 =
        ((spoiltTiers spoiltRow (midnight 9)).resolve bankPolicy (midnight 9) .strict "KRW").1 ∧
      ((spoiltTiers spoiltRow (midnight 9)).resolve bankPolicy (midnight 9) .strict
        "KRW").2.cache.inner.Holds won (wonRecord "bank" 350 (midnight 9)) ∧
      ((spoiltTiers spoiltRow (midnight 9)).resolve bankPolicy (midnight 9) .strict
        "KRW").2.store.inner.Holds won (wonRecord "bank" 350 (midnight 9)) ∧
      ((spoiltTiers soundRow (midnight 9)).resolve bankPolicy (midnight 9) .strict
        "KRW").2.cache.inner.Holds won (wonRecord "bank" 340 (midnight 8)) := by
  have hcode : CurrencyCode.parse "KRW" = .ok won := rfl
  have hcache : readable? ((spoiltTiers spoiltRow (midnight 9)).cache.inner.get (midnight 9) won) =
      none := by decide +kernel
  have hrow : readable? ((spoiltTiers spoiltRow (midnight 9)).store.inner.get won) = none := by
    decide +kernel
  have hsource : (spoiltTiers spoiltRow (midnight 9)).verdict bankPolicy (midnight 9) .strict won =
      .found .source (wonRecord "bank" 350 (midnight 9)) := by decide +kernel
  have hstore : (spoiltTiers soundRow (midnight 9)).verdict bankPolicy (midnight 9) .strict won =
      .found .store (wonRecord "bank" 340 (midnight 8)) := by decide +kernel
  obtain ⟨-, habsent, -, hlive⟩ :=
    (spoiltTiers spoiltRow (midnight 9)).resolve_repairs bankPolicy (midnight 9) .strict hcode
  obtain ⟨-, -, hstored, -⟩ :=
    (spoiltTiers soundRow (midnight 9)).resolve_repairs bankPolicy (midnight 9) .strict hcode
  obtain ⟨hserver, hrows⟩ := hlive _ hsource rfl (by decide +kernel) rfl rfl
  exact ⟨hcode, (habsent _ _ (.inr ⟨rfl, hcache⟩) (.inr ⟨rfl, hrow⟩)).1, hserver,
    hrows (by decide +kernel), hstored _ hstore rfl⟩

def farMidnight : Instant := midnight 2932897

/-- A live record whose time is of the year 10000 goes over the row as well, but the row that is
written cannot be read. -/
theorem spoiltTiers_far :
    (spoiltTiers spoiltRow farMidnight).verdict {} (midnight 9) .strict won =
        .found .source (wonRecord "bank" 350 farMidnight) ∧
      Policy.TrustsFor {} won (wonRecord "bank" 350 farMidnight) ∧
      (spoiltTiers spoiltRow farMidnight).cache.putFailure = none ∧
      (spoiltTiers spoiltRow farMidnight).store.putFailure = none ∧
      ∃ row, ((spoiltTiers spoiltRow farMidnight).resolve {} (midnight 9) .strict
          "KRW").2.store.inner.rows.get? (.of won) = some row ∧
        row.decode (.of won) = .error .malformed := by
  have hfar : ¬ (wonRecord "bank" 350 farMidnight).capturedAt.HasPlainYear := by decide +kernel
  refine ⟨by decide +kernel, .inl rfl, rfl, rfl, .ofRecord (wonRecord "bank" 350 farMidnight), ?_,
    Row.decode_ofRecord_of_not hfar⟩
  decide +kernel

end Won

end TieredRates
