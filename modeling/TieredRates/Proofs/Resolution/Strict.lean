import TieredRates.Cache.Timed
import TieredRates.Proofs.Resolution.Verdict
import TieredRates.Source.Provider
import TieredRates.Store.Rows

namespace TieredRates

namespace Policy

/-- The currency is unrestricted, or the record comes from its authority. -/
def TrustsFor (p : Policy) (c : CurrencyCode) (r : RateRecord) : Prop :=
  p.authority? c = none ∨ p.authority? c = some r.provider

instance (p : Policy) (c : CurrencyCode) (r : RateRecord) : Decidable (p.TrustsFor c r) :=
  inferInstanceAs (Decidable (_ ∨ _))

theorem trusts_iff {p : Policy} {r : RateRecord} : p.Trusts r ↔ p.TrustsFor r.target r := by
  rw [Trusts, TrustsFor]
  cases p.authority? r.target <;> simp [eq_comm]

theorem accepts_strict_iff_trustsFor {p : Policy} {c : CurrencyCode} {r : RateRecord}
    (h : r.target = c) : p.Accepts .strict r ↔ p.TrustsFor c r := by
  rw [accepts_strict_iff, trusts_iff, h]

theorem degrade_strict_ne_ok (p : Policy) (c : CurrencyCode) (stored : Lookup)
    (seen : Option RateRecord) (e : SourceError) (rate : Decimal) :
    p.degrade .strict c stored seen e ≠ .ok rate := by
  simp only [degrade]
  split <;> simp

end Policy

def Direction.convertAt (direction : Direction) (c : CurrencyCode) (amount rate : Decimal) :
    Except ResolveError Decimal :=
  match direction.convert? amount rate with
  | some converted => .ok converted
  | none => .error (.overflow amount c)

theorem Direction.convertAt_eq_ok_iff {direction : Direction} {c : CurrencyCode}
    {amount rate x : Decimal} :
    direction.convertAt c amount rate = .ok x ↔ direction.convert? amount rate = some x := by
  rw [convertAt]
  cases direction.convert? amount rate <;> simp

namespace Tiers

variable {κ σ π : Type} [SharedCache κ] [RateStore σ] [LiveSource π]

/-- Every record that is given for the currency is about it. -/
structure SpeaksOf (t : Tiers κ σ π) (now : Instant) (c : CurrencyCode) : Prop where
  first : ∀ e, t.first.get? c = some e → e.record.target = c
  cache : ∀ r, (SharedCache.get t.cache now c).1 = .ok (some r) → r.target = c
  store : ∀ r, (RateStore.get t.store c).1 = .ok (some r) → r.target = c
  source : ∀ r, (LiveSource.fetch t.source now c).1 = .ok r → r.target = c

/-- The record may answer a strict question for the currency. -/
inductive Qualifies (t : Tiers κ σ π) (p : Policy) (now : Instant) (c : CurrencyCode) :
    Origin → RateRecord → Prop
  | first {e : Cached} (h : t.first.get? c = some e) (hp : p.TrustsFor c e.record)
      (ha : now.since e.cachedAt ≤ p.l1Window) : Qualifies t p now c .first e.record
  | cache {r : RateRecord} (h : (SharedCache.get t.cache now c).1 = .ok (some r))
      (hp : p.TrustsFor c r) (ha : max 0 (now.since r.capturedAt) ≤ p.syncInterval) :
      Qualifies t p now c .cache r
  | store {r : RateRecord} (h : (RateStore.get t.store c).1 = .ok (some r))
      (hp : p.TrustsFor c r) (ha : max 0 (now.since r.capturedAt) ≤ p.syncInterval) :
      Qualifies t p now c .store r
  | source {r : RateRecord} (h : (LiveSource.fetch t.source now c).1 = .ok r)
      (hp : p.TrustsFor c r) : Qualifies t p now c .source r

variable {t : Tiers κ σ π} {p : Policy} {now : Instant} {mode : Mode} {c : CurrencyCode}

theorem candidate?_strict_eq_some_iff (ht : t.SpeaksOf now c) {o : Origin} {r : RateRecord} :
    t.candidate? p now .strict c o = some r ↔ t.Qualifies p now c o r := by
  cases o with
  | first =>
    rw [candidate?_first_eq_some_iff]
    constructor
    · rintro ⟨e, he, rfl, ha, hw⟩
      exact .first he ((Policy.accepts_strict_iff_trustsFor (ht.first e he)).1 ha) hw
    · rintro ⟨he, hp, hw⟩
      exact ⟨_, he, rfl, (Policy.accepts_strict_iff_trustsFor (ht.first _ he)).2 hp, hw⟩
  | cache =>
    rw [candidate?_cache_eq_some_iff]
    constructor
    · rintro ⟨h, ha, hw⟩
      exact .cache h ((Policy.accepts_strict_iff_trustsFor (ht.cache r h)).1 ha) hw
    · rintro ⟨⟩
      next h hp hw => exact ⟨h, (Policy.accepts_strict_iff_trustsFor (ht.cache r h)).2 hp, hw⟩
  | store =>
    rw [candidate?_store_eq_some_iff]
    constructor
    · rintro ⟨h, ha, hw⟩
      exact .store h ((Policy.accepts_strict_iff_trustsFor (ht.store r h)).1 ha) hw
    · rintro ⟨⟩
      next h hp hw => exact ⟨h, (Policy.accepts_strict_iff_trustsFor (ht.store r h)).2 hp, hw⟩
  | source =>
    rw [candidate?_source_eq_some_iff]
    constructor
    · rintro ⟨h, ha⟩
      exact .source h ((Policy.accepts_strict_iff_trustsFor (ht.source r h)).1 ha)
    · rintro ⟨⟩
      next h hp => exact ⟨h, (Policy.accepts_strict_iff_trustsFor (ht.source r h)).2 hp⟩

theorem resolve_eq_rateOf {code : String} (h : CurrencyCode.parse code = .ok c) :
    t.resolve p now mode code = t.rateOf p now mode c := by
  rw [resolve, h]

theorem convert_eq_rateOf {code : String} (h : CurrencyCode.parse code = .ok c)
    (direction : Direction) (amount : Decimal) :
    t.convert p now mode direction amount code =
      ((t.rateOf p now mode c).1.bind (direction.convertAt c amount),
        (t.rateOf p now mode c).2) := by
  rw [convert, h]
  cases hrate : (t.rateOf p now mode c).1 with
  | error e => simp only [hrate, Except.bind]
  | ok rate =>
    simp only [hrate, Except.bind, Direction.convertAt]
    cases direction.convert? amount rate <;> rfl

/-- Unless the source has failed a caller who puts up with everything, an answer is a record's. -/
theorem rateOf_eq_ok_iff (hc : c ≠ .usd)
    (hm : mode = .strict ∨ ∀ e, t.verdict p now mode c ≠ .failed e) {rate : Decimal} :
    (t.rateOf p now mode c).1 = .ok rate ↔
      ∃ o r, t.verdict p now mode c = .found o r ∧ rate = r.rate := by
  rw [rateOf_eq hc]
  cases hv : t.verdict p now mode c with
  | found o r =>
    simp only [answer, Except.ok.injEq, Verdict.found.injEq]
    constructor
    · exact fun h ↦ ⟨o, r, ⟨rfl, rfl⟩, h.symm⟩
    · rintro ⟨_, _, ⟨rfl, rfl⟩, h⟩
      exact h.symm
  | refused r => simp [answer]
  | failed e =>
    rcases hm with rfl | hm
    · simp [answer, Policy.degrade_strict_ne_ok]
    · exact absurd hv (hm e)

/-- A strict question is answered exactly if some record may answer it, and with the rate of the one
that is asked for first. -/
theorem resolve_strict {code : String} (hcode : CurrencyCode.parse code = .ok c) (hc : c ≠ .usd)
    (ht : t.SpeaksOf now c) :
    ((∃ rate, (t.resolve p now .strict code).1 = .ok rate) ↔ ∃ o r, t.Qualifies p now c o r) ∧
    ∀ rate, (t.resolve p now .strict code).1 = .ok rate ↔
      ∃ o r, t.Qualifies p now c o r ∧
        (∀ o' r', t.Qualifies p now c o' r' → o.rank ≤ o'.rank) ∧ rate = r.rate := by
  have hq {o : Origin} {r : RateRecord} := candidate?_strict_eq_some_iff (p := p) ht (o := o) (r := r)
  have hfirst {o : Origin} {r : RateRecord} : t.verdict p now .strict c = .found o r ↔
      t.Qualifies p now c o r ∧ ∀ o' r', t.Qualifies p now c o' r' → o.rank ≤ o'.rank := by
    rw [verdict_eq_found_iff, hq]
    refine and_congr_right fun _ ↦ forall_congr' fun o' ↦ ?_
    rw [Option.eq_none_iff_forall_ne_some]
    simp only [ne_eq, hq]
    exact ⟨fun h r' hr' ↦ Nat.le_of_not_lt fun hlt ↦ h hlt r' hr',
      fun h hlt r' hr' ↦ Nat.not_lt.2 (h r' hr') hlt⟩
  simp only [resolve_eq_rateOf hcode, rateOf_eq_ok_iff hc (.inl rfl)]
  refine ⟨⟨?_, ?_⟩, fun rate ↦ ⟨?_, ?_⟩⟩
  · rintro ⟨rate, o, r, hv, -⟩
    exact ⟨o, r, (hfirst.1 hv).1⟩
  · rintro ⟨o, r, h⟩
    obtain ⟨o', r', hv⟩ := exists_found_of_candidate? (hq.2 h)
    exact ⟨r'.rate, o', r', hv, rfl⟩
  · rintro ⟨o, r, hv, hrate⟩
    exact ⟨o, r, (hfirst.1 hv).1, (hfirst.1 hv).2, hrate⟩
  · rintro ⟨o, r, h, hmin, hrate⟩
    exact ⟨o, r, hfirst.2 ⟨h, hmin⟩, hrate⟩

end Tiers

section Won

def won : CurrencyCode := ⟨⟨'K', by decide⟩, ⟨'R', by decide⟩, ⟨'W', by decide⟩⟩

/-- The midnight that is so many days after the beginning of 1970. -/
def midnight (days : Nat) : Instant := (default : Instant).plus (Span.ofSeconds (86400 * days))

/-- A record of 1000 won and some hundreds more. -/
def wonRecord (provider : String) (more : Nat) (capturedAt : Instant) : RateRecord where
  target := won
  rate := { Decimal.one with size := 1000 + more % 1000, size_lt := by omega }
  capturedAt
  provider
  observedOn := none
  target_ne := by decide
  rate_pos := Decimal.isPositive_iff.2 ⟨rfl, Nat.add_pos_left (by decide) _⟩

def bankPolicy : Policy := Policy.restrict {} won "bank"

/-- The first tier has a young record of someone else, the second an old one of the bank, the store
one of the bank that is just young enough, and the source a live one of the bank. -/
def wonTiers : Tiers (Table CurrencyCode RateRecord) (Table CurrencyCode RateRecord) Registry where
  first := FirstTier.cache ∅ (wonRecord "paper" 400 (midnight 9)) (midnight 9)
  cache := Table.insert ∅ won (wonRecord "bank" 300 (midnight 7))
  store := Table.insert ∅ won (wonRecord "bank" 340 (midnight 8))
  source := ⟨[.canned "bank" (Table.insert ∅ won (wonRecord "bank" 350 (midnight 9)))]⟩

theorem wonTiers_first {e : Cached} (h : wonTiers.first.get? won = some e) :
    e = ⟨wonRecord "paper" 400 (midnight 9), midnight 9⟩ := by
  have hw : wonTiers.first.get? won = some ⟨wonRecord "paper" 400 (midnight 9), midnight 9⟩ := rfl
  exact Option.some.inj (h.symm.trans hw)

theorem wonTiers_cache {r : RateRecord}
    (h : (SharedCache.get wonTiers.cache (midnight 9) won).1 = .ok (some r)) :
    r = wonRecord "bank" 300 (midnight 7) := by
  have hw : (SharedCache.get wonTiers.cache (midnight 9) won).1 =
      .ok (some (wonRecord "bank" 300 (midnight 7))) := rfl
  exact Option.some.inj (Except.ok.inj (h.symm.trans hw))

theorem wonTiers_speaksOf : wonTiers.SpeaksOf (midnight 9) won where
  first e h := by
    rw [wonTiers_first h]
    rfl
  cache r h := by
    rw [wonTiers_cache h]
    rfl
  store r h := by
    have hw : (RateStore.get wonTiers.store won).1 =
        .ok (some (wonRecord "bank" 340 (midnight 8))) := rfl
    obtain rfl := Option.some.inj (Except.ok.inj (hw.symm.trans h))
    rfl
  source r h := by
    have hw : (LiveSource.fetch wonTiers.source (midnight 9) won).1 =
        .ok (wonRecord "bank" 350 (midnight 9)) := rfl
    obtain rfl := Except.ok.inj (hw.symm.trans h)
    rfl

theorem resolve_strict_won :
    CurrencyCode.parse " krw" = .ok won ∧ won ≠ .usd ∧ wonTiers.SpeaksOf (midnight 9) won ∧
      (wonTiers.resolve bankPolicy (midnight 9) .strict " krw").1 =
        .ok (wonRecord "bank" 340 (midnight 8)).rate := by
  have hcode : CurrencyCode.parse " krw" = .ok won := rfl
  have hc : won ≠ .usd := by decide
  refine ⟨hcode, hc, wonTiers_speaksOf, ?_⟩
  refine ((Tiers.resolve_strict hcode hc wonTiers_speaksOf).2 _).2
    ⟨.store, _, .store rfl (by decide +kernel) (by decide +kernel), ?_, rfl⟩
  rintro _ _ (⟨h, hp, -⟩ | ⟨h, -, ha⟩ | ⟨-, -, -⟩ | ⟨-, -⟩)
  · rw [wonTiers_first h] at hp
    exact absurd hp (by decide +kernel)
  · rw [wonTiers_cache h] at ha
    exact absurd ha (by decide +kernel)
  · decide
  · decide

end Won

end TieredRates
