import TieredRates.Proofs.Resolution.Strict

namespace TieredRates

def readable? {ε : Type} : Except ε (Option RateRecord) → Option RateRecord
  | .ok r? => r?
  | .error _ => none

theorem readable?_eq_some_iff {ε : Type} {got : Except ε (Option RateRecord)} {r : RateRecord} :
    readable? got = some r ↔ got = .ok (some r) := by
  cases got <;> simp [readable?]

theorem Lookup.inCache_eq {p : Policy} {mode : Mode} {now : Instant}
    (got : Except CacheError (Option RateRecord)) :
    inCache p mode now got = match readable? got with
      | some r => if r.FreshWithin p.syncInterval now then judge p mode true r else stale r
      | none => miss := by
  rcases got with e | _ | r <;> rfl

theorem Lookup.inStore_eq {p : Policy} {mode : Mode} {now : Instant}
    (got : Except StoreError (Option RateRecord)) :
    inStore p mode now got = match readable? got with
      | some r => judge p mode (r.FreshWithin p.syncInterval now) r
      | none => miss := by
  rcases got with e | _ | r <;> rfl

theorem Lookup.record?_inStore {p : Policy} {mode : Mode} {now : Instant}
    {got : Except StoreError (Option RateRecord)} :
    (inStore p mode now got).record? = readable? got := by
  rw [inStore_eq]
  cases readable? got with
  | none => rfl
  | some r =>
    simp only [judge]
    split
    · split <;> rfl
    · rfl

namespace Tiers

variable {κ σ π : Type} [SharedCache κ] [RateStore σ] [LiveSource π]

section Known

variable (t : Tiers κ σ π) (window : Int) (now : Instant) (c : CurrencyCode)

/-- The record of the first tier, if it was cached within the window. -/
def firstWithin? : Option RateRecord :=
  ((t.first.get? c).filter fun e ↦ now.since e.cachedAt ≤ window).map (·.record)

/-- The record of the second tier, if it was captured within the window. -/
def cachedWithin? : Option RateRecord :=
  (readable? (SharedCache.get t.cache now c).1).filter fun r ↦
    max 0 (now.since r.capturedAt) ≤ window

def stored? : Option RateRecord := readable? (RateStore.get t.store c).1

def storedWithin? : Option RateRecord :=
  (t.stored? c).filter fun r ↦ max 0 (now.since r.capturedAt) ≤ window

/-- The first that is there: a young record of the first tier, of the second, of the store, a live
one, and at last a stored one of any age. -/
def bestKnown? (l1Window syncInterval : Int) : Option RateRecord :=
  t.firstWithin? l1Window now c <|> t.cachedWithin? syncInterval now c <|>
    t.storedWithin? syncInterval now c <|> (LiveSource.fetch t.source now c).1.toOption <|>
    t.stored? c

end Known

variable {t : Tiers κ σ π} {p : Policy} {now : Instant} {c : CurrencyCode}

omit [SharedCache κ] [RateStore σ] [LiveSource π] in
theorem hit?_lookFirst_nonStrict :
    (t.lookFirst p now .nonStrict c).hit? = t.firstWithin? p.l1Window now c := by
  refine Option.ext fun r ↦ ?_
  rw [lookFirst, Lookup.hit?_inFirst_eq_some_iff, firstWithin?]
  simp only [Option.map_eq_some_iff, Option.filter_eq_some_iff, decide_eq_true_eq]
  constructor
  · rintro ⟨e, he, hr, -, hw⟩
    exact ⟨e, ⟨he, hw⟩, hr⟩
  · rintro ⟨e, ⟨he, hw⟩, hr⟩
    exact ⟨e, he, hr, p.accepts_nonStrict r, hw⟩

omit [RateStore σ] [LiveSource π] in
theorem hit?_lookCache_nonStrict :
    (t.lookCache p now .nonStrict c).hit? = t.cachedWithin? p.syncInterval now c := by
  refine Option.ext fun r ↦ ?_
  rw [lookCache, Lookup.hit?_inCache_eq_some_iff, cachedWithin?]
  simp only [Option.filter_eq_some_iff, readable?_eq_some_iff, decide_eq_true_eq]
  exact and_congr_right fun _ ↦ and_iff_right (p.accepts_nonStrict r)

omit [SharedCache κ] [LiveSource π] in
theorem hit?_lookStore_nonStrict :
    (t.lookStore p now .nonStrict c).hit? = t.storedWithin? p.syncInterval now c := by
  refine Option.ext fun r ↦ ?_
  rw [lookStore, Lookup.hit?_inStore_eq_some_iff, storedWithin?, stored?]
  simp only [Option.filter_eq_some_iff, readable?_eq_some_iff, decide_eq_true_eq]
  exact and_congr_right fun _ ↦ and_iff_right (p.accepts_nonStrict r)

theorem rateOf_nonStrict (hc : c ≠ .usd) :
    (t.rateOf p now .nonStrict c).1 =
      .ok (((t.bestKnown? now c p.l1Window p.syncInterval).map (·.rate)).getD .one) := by
  have hfirst : (t.lookFirst p now .nonStrict c).hit? = t.firstWithin? p.l1Window now c :=
    hit?_lookFirst_nonStrict
  have hcache : (t.lookCache p now .nonStrict c).hit? = t.cachedWithin? p.syncInterval now c :=
    hit?_lookCache_nonStrict
  have hstore : (t.lookStore p now .nonStrict c).hit? = t.storedWithin? p.syncInterval now c :=
    hit?_lookStore_nonStrict
  have hany : (t.lookStore p now .nonStrict c).record? = t.stored? c := Lookup.record?_inStore
  rw [rateOf_eq hc, verdict, bestKnown?, ← hfirst, ← hcache, ← hstore]
  show t.answer p now .nonStrict c _ = _
  cases (t.lookFirst p now .nonStrict c).hit? with
  | some r => rfl
  | none =>
    cases (t.lookCache p now .nonStrict c).hit? with
    | some r => rfl
    | none =>
      cases (t.lookStore p now .nonStrict c).hit? with
      | some r => rfl
      | none =>
        rw [live]
        cases (LiveSource.fetch t.source now c).1 with
        | ok r =>
          simp only [p.accepts_nonStrict r, if_true]
          rfl
        | error e =>
          -- the source has failed, and the age of what is stored no longer matters
          simp only [answer, Policy.degrade, hany]
          cases t.stored? c <;> rfl

theorem bestKnown?_eq_none_iff {l1Window syncInterval : Int} :
    t.bestKnown? now c l1Window syncInterval = none ↔
      (∀ e, t.first.get? c = some e → l1Window < now.since e.cachedAt) ∧
      (∀ r, (SharedCache.get t.cache now c).1 = .ok (some r) →
        syncInterval < max 0 (now.since r.capturedAt)) ∧
      (∀ r, (RateStore.get t.store c).1 ≠ .ok (some r)) ∧
      ∃ e, (LiveSource.fetch t.source now c).1 = .error e := by
  have hfirst : t.firstWithin? l1Window now c = none ↔
      ∀ e, t.first.get? c = some e → l1Window < now.since e.cachedAt := by
    simp [firstWithin?, Option.filter_eq_none_iff]
  have hcache : t.cachedWithin? syncInterval now c = none ↔
      ∀ r, (SharedCache.get t.cache now c).1 = .ok (some r) →
        syncInterval < max 0 (now.since r.capturedAt) := by
    simp only [cachedWithin?, Option.filter_eq_none_iff, readable?_eq_some_iff, decide_eq_true_eq,
      Int.not_le]
  have hstored : t.stored? c = none ↔ ∀ r, (RateStore.get t.store c).1 ≠ .ok (some r) := by
    simp only [Option.eq_none_iff_forall_ne_some, stored?, ne_eq, readable?_eq_some_iff]
  have hlive : (LiveSource.fetch t.source now c).1.toOption = none ↔
      ∃ e, (LiveSource.fetch t.source now c).1 = .error e := by
    cases (LiveSource.fetch t.source now c).1 <;> simp [Except.toOption]
  -- a store without a record has no young one either
  have hyoung : t.stored? c = none → t.storedWithin? syncInterval now c = none := by
    intro h
    rw [storedWithin?, h]
    rfl
  simp only [bestKnown?, Option.orElse_eq_orElse, Option.orElse_eq_or, Option.or_eq_none_iff,
    hfirst, hcache, hlive, ← hstored]
  refine and_congr_right fun _ ↦ and_congr_right fun _ ↦ ⟨?_, ?_⟩
  · rintro ⟨-, hl, hs⟩
    exact ⟨hs, hl⟩
  · rintro ⟨hs, hl⟩
    exact ⟨hyoung hs, hl, hs⟩

/-- A question that does not insist is answered with the rate of the best record that is known, and
with 1 exactly if there is none. Who may speak for a currency does not matter. -/
theorem resolve_nonStrict {code : String} (hcode : CurrencyCode.parse code = .ok c)
    (hc : c ≠ .usd) :
    (∃ rate, (t.resolve p now .nonStrict code).1 = .ok rate ∧ rate.IsPositive ∧
      rate = ((t.bestKnown? now c p.l1Window p.syncInterval).map (·.rate)).getD .one) ∧
    (t.bestKnown? now c p.l1Window p.syncInterval = none ↔
      (∀ e, t.first.get? c = some e → p.l1Window < now.since e.cachedAt) ∧
      (∀ r, (SharedCache.get t.cache now c).1 = .ok (some r) →
        p.syncInterval < max 0 (now.since r.capturedAt)) ∧
      (∀ r, (RateStore.get t.store c).1 ≠ .ok (some r)) ∧
      ∃ e, (LiveSource.fetch t.source now c).1 = .error e) ∧
    ∀ restricted : Table CurrencyCode String,
      (t.resolve { p with restricted } now .nonStrict code).1 =
        (t.resolve p now .nonStrict code).1 := by
  refine ⟨⟨_, ?_, ?_, rfl⟩, bestKnown?_eq_none_iff, fun restricted ↦ ?_⟩
  · rw [resolve_eq_rateOf hcode, rateOf_nonStrict hc]
  · cases t.bestKnown? now c p.l1Window p.syncInterval with
    | some r => exact r.rate_pos
    | none => exact Decimal.one_isPositive
  · rw [resolve_eq_rateOf hcode, resolve_eq_rateOf hcode, rateOf_nonStrict hc, rateOf_nonStrict hc]

end Tiers

def deadEndTiers :
    Tiers (Table CurrencyCode RateRecord) (Table CurrencyCode RateRecord) Registry :=
  { wonTiers with source := ⟨[]⟩ }

theorem resolve_nonStrict_won :
    CurrencyCode.parse " krw" = .ok won ∧ won ≠ .usd ∧
      ∃ rate, (deadEndTiers.resolve bankPolicy (midnight 20) .nonStrict " krw").1 = .ok rate ∧
        rate.IsPositive ∧ rate = (wonRecord "bank" 340 (midnight 8)).rate := by
  have hcode : CurrencyCode.parse " krw" = .ok won := rfl
  have hc : won ≠ .usd := by decide
  have hbest : ∃ rate, (deadEndTiers.resolve bankPolicy (midnight 20) .nonStrict " krw").1 =
      .ok rate ∧ rate.IsPositive ∧ rate = ((deadEndTiers.bestKnown? (midnight 20) won
        bankPolicy.l1Window bankPolicy.syncInterval).map (·.rate)).getD .one :=
    (Tiers.resolve_nonStrict hcode hc).1
  refine ⟨hcode, hc, ?_⟩
  obtain ⟨rate, hanswer, hpos, hrate⟩ := hbest
  refine ⟨rate, hanswer, hpos, hrate.trans ?_⟩
  decide +kernel

end TieredRates
