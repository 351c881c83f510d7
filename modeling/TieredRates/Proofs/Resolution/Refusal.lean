import TieredRates.Proofs.Resolution.NonStrict

namespace TieredRates

namespace Policy

/-- The error blames the record: it says who gave it, and who should have. -/
def Disowns (p : Policy) (c : CurrencyCode) (r : RateRecord) (e : ResolveError) : Prop :=
  ∃ authority, p.authority? c = some authority ∧ r.provider ≠ authority ∧
    e = .untrusted c r.provider authority

variable {p : Policy} {c : CurrencyCode} {r : RateRecord} {e : ResolveError}

theorem not_trustsFor_iff : ¬ p.TrustsFor c r ↔
    ∃ authority, p.authority? c = some authority ∧ r.provider ≠ authority := by
  rw [TrustsFor]
  cases p.authority? c with
  | none => simp
  | some authority => simp [eq_comm]

theorem disowns_refusal (hr : r.target = c) (h : ¬ p.TrustsFor c r) :
    p.Disowns c r (p.refusal r) := by
  obtain ⟨authority, ha, hne⟩ := not_trustsFor_iff.1 h
  refine ⟨authority, ha, hne, ?_⟩
  rw [refusal, hr, ha, Option.getD_some]

theorem Disowns.currency? (h : p.Disowns c r e) : e.currency? = some c := by
  obtain ⟨authority, -, -, rfl⟩ := h
  rfl

theorem Disowns.restricted (h : p.Disowns c r e) : p.authority? c ≠ none := by
  obtain ⟨authority, ha, -, -⟩ := h
  rw [ha]
  exact Option.some_ne_none authority

end Policy

namespace Lookup

variable {p : Policy} {mode : Mode} {now : Instant} {r : RateRecord}

theorem untrusted?_judge_eq_some_iff {fresh : Bool} {s : RateRecord} :
    (judge p mode fresh s).untrusted? = some r ↔ s = r ∧ ¬ p.Accepts mode r := by
  rw [judge]
  split
  · next ha =>
    have hnone : (if fresh then hit s else stale s).untrusted? = none := by
      cases fresh <;> rfl
    rw [hnone]
    simp only [reduceCtorEq, false_iff]
    rintro ⟨rfl, h⟩
    exact h ha
  · next ha =>
    simp only [untrusted?, Option.some.injEq]
    exact ⟨fun h ↦ ⟨h, h ▸ ha⟩, fun h ↦ h.1⟩

theorem untrusted?_inFirst_eq_some_iff {e? : Option Cached} :
    (inFirst p mode now e?).untrusted? = some r ↔
      ∃ e, e? = some e ∧ e.record = r ∧ ¬ p.Accepts mode r ∧ e.Within p.l1Window now := by
  cases e? with
  | none => simp [inFirst, untrusted?]
  | some e =>
    simp only [inFirst, Option.some.injEq, exists_eq_left']
    split
    · next h => simp [untrusted?_judge_eq_some_iff, h]
    · next h => simp [untrusted?, h]

theorem untrusted?_inCache_eq_some_iff {got : Except CacheError (Option RateRecord)} :
    (inCache p mode now got).untrusted? = some r ↔
      got = .ok (some r) ∧ ¬ p.Accepts mode r ∧ r.FreshWithin p.syncInterval now := by
  rcases got with e | _ | s
  · simp [inCache, untrusted?]
  · simp [inCache, untrusted?]
  · simp only [inCache, Except.ok.injEq, Option.some.injEq]
    split
    · next h =>
      rw [untrusted?_judge_eq_some_iff]
      refine and_congr_right fun hs ↦ ?_
      simp [← hs, h]
    · next h =>
      simp only [untrusted?, reduceCtorEq, false_iff]
      rintro ⟨rfl, -, hf⟩
      exact h hf

theorem inStore_eq_of_no_hit {got : Except StoreError (Option RateRecord)}
    (h : (inStore p mode now got).hit? = none) :
    inStore p mode now got = match readable? got with
      | some r => if p.Accepts mode r then stale r else untrusted r
      | none => miss := by
  rw [inStore_eq] at h ⊢
  cases hr : readable? got with
  | none => rfl
  | some r =>
    simp only [hr, judge] at h ⊢
    split
    · next ha =>
      rw [if_pos ha] at h
      split
      · next hf =>
        rw [if_pos hf] at h
        exact absurd h (Option.some_ne_none r)
      · rfl
    · rfl

end Lookup

namespace Tiers

variable {κ σ π : Type} [SharedCache κ] [RateStore σ] [LiveSource π]

/-- What a cache has from someone else and is young enough there, the first tier's before the
second's. -/
def foreign? (t : Tiers κ σ π) (p : Policy) (now : Instant) (c : CurrencyCode) :
    Option RateRecord :=
  (t.firstWithin? p.l1Window now c).filter (fun r ↦ ¬ p.TrustsFor c r) <|>
    (t.cachedWithin? p.syncInterval now c).filter (fun r ↦ ¬ p.TrustsFor c r)

variable {t : Tiers κ σ π} {p : Policy} {now : Instant} {mode : Mode} {c : CurrencyCode}
variable {e : ResolveError}

theorem untrusted?_lookFirst (ht : t.SpeaksOf now c) :
    (t.lookFirst p now .strict c).untrusted? =
      (t.firstWithin? p.l1Window now c).filter fun r ↦ ¬ p.TrustsFor c r := by
  refine Option.ext fun r ↦ ?_
  rw [lookFirst, Lookup.untrusted?_inFirst_eq_some_iff, firstWithin?]
  simp only [Option.filter_eq_some_iff, Option.map_eq_some_iff, decide_eq_true_eq]
  constructor
  · rintro ⟨e, he, rfl, ha, hw⟩
    rw [Policy.accepts_strict_iff_trustsFor (ht.first e he)] at ha
    exact ⟨⟨e, ⟨he, hw⟩, rfl⟩, ha⟩
  · rintro ⟨⟨e, ⟨he, hw⟩, rfl⟩, ha⟩
    rw [← Policy.accepts_strict_iff_trustsFor (ht.first e he)] at ha
    exact ⟨e, he, rfl, ha, hw⟩

theorem untrusted?_lookCache (ht : t.SpeaksOf now c) :
    (t.lookCache p now .strict c).untrusted? =
      (t.cachedWithin? p.syncInterval now c).filter fun r ↦ ¬ p.TrustsFor c r := by
  refine Option.ext fun r ↦ ?_
  rw [lookCache, Lookup.untrusted?_inCache_eq_some_iff, cachedWithin?]
  simp only [Option.filter_eq_some_iff, readable?_eq_some_iff, decide_eq_true_eq]
  constructor
  · rintro ⟨h, ha, hw⟩
    rw [Policy.accepts_strict_iff_trustsFor (ht.cache r h)] at ha
    exact ⟨⟨h, hw⟩, ha⟩
  · rintro ⟨⟨h, hw⟩, ha⟩
    rw [← Policy.accepts_strict_iff_trustsFor (ht.cache r h)] at ha
    exact ⟨h, ha, hw⟩

theorem seen_strict (ht : t.SpeaksOf now c) : t.seen p now .strict c = t.foreign? p now c := by
  rw [seen, foreign?, untrusted?_lookFirst ht, untrusted?_lookCache ht]

theorem foreign?_target (ht : t.SpeaksOf now c) {r : RateRecord}
    (h : t.foreign? p now c = some r) : r.target = c ∧ ¬ p.TrustsFor c r := by
  rw [foreign?, Option.orElse_eq_orElse, Option.orElse_eq_or, Option.or_eq_some_iff] at h
  rcases h with h | ⟨-, h⟩
  · simp only [firstWithin?, Option.filter_eq_some_iff, Option.map_eq_some_iff,
      decide_eq_true_eq] at h
    obtain ⟨⟨e, ⟨he, -⟩, rfl⟩, hforeign⟩ := h
    exact ⟨ht.first e he, hforeign⟩
  · simp only [cachedWithin?, Option.filter_eq_some_iff, readable?_eq_some_iff,
      decide_eq_true_eq] at h
    exact ⟨ht.cache r h.1.1, h.2⟩

theorem degrade_strict (ht : t.SpeaksOf now c) {cause : SourceError}
    (hs : (t.lookStore p now .strict c).hit? = none)
    (h : p.degrade .strict c (t.lookStore p now .strict c) (t.seen p now .strict c) cause =
      .error e) :
    (∀ r, t.stored? c = some r →
      (¬ p.TrustsFor c r → p.Disowns c r e) ∧ (p.TrustsFor c r → e = .stale c r.capturedAt)) ∧
    (t.stored? c = none →
      (∀ r, t.foreign? p now c = some r → p.Disowns c r e) ∧
      (t.foreign? p now c = none → e = .unavailable c cause)) := by
  have hlook : t.lookStore p now .strict c = match t.stored? c with
      | some r => if p.Accepts .strict r then .stale r else .untrusted r
      | none => .miss := Lookup.inStore_eq_of_no_hit hs
  rw [hlook, seen_strict ht] at h
  -- a stored record decides at any age; what the caches have counts only if there is none
  cases hstored : t.stored? c with
  | some r =>
    have hr : r.target = c := ht.store r (readable?_eq_some_iff.1 hstored)
    have haccepts : p.Accepts .strict r ↔ p.TrustsFor c r := Policy.accepts_strict_iff_trustsFor hr
    refine ⟨?_, nofun⟩
    rintro _ ⟨rfl⟩
    rw [hstored] at h
    refine ⟨fun hforeign ↦ ?_, fun htrusts ↦ ?_⟩
    · simp only [haccepts, if_neg hforeign, Policy.degrade, Except.error.injEq] at h
      exact h ▸ Policy.disowns_refusal hr hforeign
    · simp only [haccepts, if_pos htrusts, Policy.degrade, Except.error.injEq] at h
      exact h.symm
  | none =>
    refine ⟨fun r hr ↦ absurd hr (by simp), fun _ ↦ ⟨fun r hr ↦ ?_, fun hnone ↦ ?_⟩⟩
    · simp only [hstored, hr, Policy.degrade, Except.error.injEq] at h
      exact h ▸ Policy.disowns_refusal (foreign?_target ht hr).1 (foreign?_target ht hr).2
    · simp only [hstored, hnone, Policy.degrade, Except.error.injEq] at h
      exact h.symm

inductive StrictCause (p : Policy) (c : CurrencyCode) : ResolveError → Prop
  | foreign {r : RateRecord} {e : ResolveError} (h : p.Disowns c r e) : StrictCause p c e
  | stale (capturedAt : Instant) : StrictCause p c (.stale c capturedAt)
  | unavailable (cause : SourceError) : StrictCause p c (.unavailable c cause)

theorem StrictCause.currency? (h : StrictCause p c e) : e.currency? = some c := by
  cases h with
  | foreign h => exact h.currency?
  | stale capturedAt => rfl
  | unavailable cause => rfl

theorem StrictCause.ne_untrusted (h : StrictCause p c e) (hopen : p.authority? c = none)
    (d : CurrencyCode) (provider expected : String) : e ≠ .untrusted d provider expected := by
  cases h with
  | foreign h => exact absurd hopen h.restricted
  | stale capturedAt => simp
  | unavailable cause => simp

theorem strictCause_of_degrade (ht : t.SpeaksOf now c) {cause : SourceError}
    (hs : (t.lookStore p now .strict c).hit? = none)
    (h : p.degrade .strict c (t.lookStore p now .strict c) (t.seen p now .strict c) cause =
      .error e) : StrictCause p c e := by
  obtain ⟨hstored, hempty⟩ := degrade_strict ht hs h
  cases hr : t.stored? c with
  | some r =>
    obtain ⟨hforeign, hstale⟩ := hstored r hr
    by_cases htrusts : p.TrustsFor c r
    · exact hstale htrusts ▸ .stale r.capturedAt
    · exact .foreign (hforeign htrusts)
  | none =>
    obtain ⟨hforeign, hunavailable⟩ := hempty hr
    cases hf : t.foreign? p now c with
    | some r => exact .foreign (hforeign r hf)
    | none => exact hunavailable hf ▸ .unavailable cause

/-- A strict question that is refused names the cause: the provider of the record that may not
answer, the age of the one that is too old, or what the source says about itself. -/
theorem resolve_strict_refused {code : String} (hcode : CurrencyCode.parse code = .ok c)
    (hc : c ≠ .usd) (ht : t.SpeaksOf now c) (h : (t.resolve p now .strict code).1 = .error e) :
    (∀ r, t.live now c = .ok r → p.Disowns c r e) ∧
    (∀ cause, t.live now c = .error cause →
      (∀ r, t.stored? c = some r →
        (¬ p.TrustsFor c r → p.Disowns c r e) ∧ (p.TrustsFor c r → e = .stale c r.capturedAt)) ∧
      (t.stored? c = none →
        (∀ r, t.foreign? p now c = some r → p.Disowns c r e) ∧
        (t.foreign? p now c = none → e = .unavailable c cause))) ∧
    (p.authority? c = none → ∀ d provider expected, e ≠ .untrusted d provider expected) ∧
    e.currency? = some c := by
  rw [resolve_eq_rateOf hcode, rateOf_eq hc] at h
  cases hv : t.verdict p now .strict c with
  | found o r => simp [hv, answer] at h
  | refused r =>
    obtain ⟨hl, ha⟩ := live_of_refused hv
    have hr : r.target = c := ht.source r hl
    rw [Policy.accepts_strict_iff_trustsFor hr] at ha
    have hdisowns : p.Disowns c r e := by
      obtain rfl : p.refusal r = e := by simpa [hv, answer] using h
      exact Policy.disowns_refusal hr ha
    have hcause : StrictCause p c e := .foreign hdisowns
    refine ⟨fun s hs ↦ ?_, fun cause herror ↦ ?_, hcause.ne_untrusted, hcause.currency?⟩
    · exact Except.ok.inj (hl.symm.trans hs) ▸ hdisowns
    · exact absurd (hl.symm.trans herror) (by simp)
  | failed cause =>
    obtain ⟨hl, hs⟩ := live_of_failed hv
    simp only [hv, answer] at h
    obtain ⟨hstored, hempty⟩ := degrade_strict ht hs h
    have hcause : StrictCause p c e := strictCause_of_degrade ht hs h
    refine ⟨fun s hs ↦ ?_, fun cause' herror ↦ ?_, hcause.ne_untrusted, hcause.currency?⟩
    · exact absurd (hl.symm.trans hs) (by simp)
    · obtain rfl := Except.error.inj (hl.symm.trans herror)
      exact ⟨hstored, hempty⟩

end Tiers

def hearsayTiers :
    Tiers (Table CurrencyCode RateRecord) (Table CurrencyCode RateRecord) Registry where
  first := FirstTier.cache ∅ (wonRecord "paper" 400 (midnight 7)) (midnight 9)
  cache := Table.insert ∅ won (wonRecord "gazette" 300 (midnight 9))
  store := ∅
  source := ⟨[]⟩

theorem hearsayTiers_speaksOf : hearsayTiers.SpeaksOf (midnight 9) won where
  first e h := by
    have hw : hearsayTiers.first.get? won =
        some ⟨wonRecord "paper" 400 (midnight 7), midnight 9⟩ := rfl
    obtain rfl := Option.some.inj (hw.symm.trans h)
    rfl
  cache r h := by
    have hw : (SharedCache.get hearsayTiers.cache (midnight 9) won).1 =
        .ok (some (wonRecord "gazette" 300 (midnight 9))) := rfl
    obtain rfl := Option.some.inj (Except.ok.inj (hw.symm.trans h))
    rfl
  store r h := absurd h (by simp [hearsayTiers, RateStore.get, Table.get?_empty])
  source r h := by
    have hw : (LiveSource.fetch hearsayTiers.source (midnight 9) won).1 =
        .error (.unconfigured won) := rfl
    exact absurd (hw.symm.trans h) (by simp)

theorem resolve_strict_refused_won :
    CurrencyCode.parse " krw" = .ok won ∧ won ≠ .usd ∧ hearsayTiers.SpeaksOf (midnight 9) won ∧
      (hearsayTiers.resolve bankPolicy (midnight 9) .strict " krw").1 =
        .error (.untrusted won "paper" "bank") ∧
      bankPolicy.Disowns won (wonRecord "paper" 400 (midnight 7))
        (.untrusted won "paper" "bank") := by
  have hcode : CurrencyCode.parse " krw" = .ok won := rfl
  have hc : won ≠ .usd := by decide
  have hrefused : (hearsayTiers.resolve bankPolicy (midnight 9) .strict " krw").1 =
      .error (.untrusted won "paper" "bank") := rfl
  obtain ⟨-, hfailed, -⟩ := Tiers.resolve_strict_refused hcode hc hearsayTiers_speaksOf hrefused
  have hempty := (hfailed (.unconfigured won) rfl).2 rfl
  exact ⟨hcode, hc, hearsayTiers_speaksOf, hrefused, hempty.1 _ rfl⟩

end TieredRates
