import TieredRates.Proofs.Resolution.Refusal

namespace TieredRates

namespace Policy

def Unrestricted (p : Policy) : Prop := ∀ c, p.authority? c = none

theorem Unrestricted.trusts {p : Policy} (h : p.Unrestricted) (r : RateRecord) : p.Trusts r := by
  intro provider hprovider
  rw [h] at hprovider
  exact absurd hprovider (by simp)

theorem accepts_of_trusts {p : Policy} {r : RateRecord} (h : p.Trusts r) (mode : Mode) :
    p.Accepts mode r :=
  fun _ ↦ h

end Policy

theorem Lookup.judge_of_trusts {p : Policy} {r : RateRecord} (h : p.Trusts r) (mode : Mode)
    (fresh : Bool) : judge p mode fresh r = if fresh then hit r else stale r :=
  if_pos (Policy.accepts_of_trusts h mode)

namespace Tiers

variable {κ σ π : Type} [SharedCache κ] [RateStore σ] [LiveSource π]

/-- Strict callers accept whatever record is given for the currency. -/
structure Believed (t : Tiers κ σ π) (p : Policy) (now : Instant) (c : CurrencyCode) : Prop where
  first : ∀ e, t.first.get? c = some e → p.Trusts e.record
  cache : ∀ r, (SharedCache.get t.cache now c).1 = .ok (some r) → p.Trusts r
  store : ∀ r, (RateStore.get t.store c).1 = .ok (some r) → p.Trusts r
  source : ∀ r, (LiveSource.fetch t.source now c).1 = .ok r → p.Trusts r

variable {t : Tiers κ σ π} {p : Policy} {now : Instant} {mode mode' : Mode} {c : CurrencyCode}

theorem believed_of_unrestricted (h : p.Unrestricted) (t : Tiers κ σ π) (now : Instant)
    (c : CurrencyCode) : t.Believed p now c where
  first e _ := h.trusts e.record
  cache r _ := h.trusts r
  store r _ := h.trusts r
  source r _ := h.trusts r

theorem SpeaksOf.believed (h : t.SpeaksOf now c) (hopen : p.authority? c = none) :
    t.Believed p now c := by
  have htrusts {r : RateRecord} (hr : r.target = c) : p.Trusts r :=
    Policy.trusts_iff.2 (.inl (hr ▸ hopen))
  exact {
    first := fun e he ↦ htrusts (h.first e he)
    cache := fun r hr ↦ htrusts (h.cache r hr)
    store := fun r hr ↦ htrusts (h.store r hr)
    source := fun r hr ↦ htrusts (h.source r hr) }

namespace Believed

theorem lookFirst (h : t.Believed p now c) :
    t.lookFirst p now mode c = t.lookFirst p now mode' c := by
  rw [Tiers.lookFirst, Tiers.lookFirst]
  cases he : t.first.get? c with
  | none => rfl
  | some e =>
    have htrusts := h.first e he
    simp only [Lookup.inFirst, Lookup.judge_of_trusts htrusts]

theorem lookCache (h : t.Believed p now c) :
    t.lookCache p now mode c = t.lookCache p now mode' c := by
  rw [Tiers.lookCache, Tiers.lookCache]
  cases hgot : (SharedCache.get t.cache now c).1 with
  | error e => rfl
  | ok r? =>
    cases r? with
    | none => rfl
    | some r =>
      have htrusts := h.cache r hgot
      simp only [Lookup.inCache, Lookup.judge_of_trusts htrusts]

theorem lookStore (h : t.Believed p now c) :
    t.lookStore p now mode c = t.lookStore p now mode' c := by
  rw [Tiers.lookStore, Tiers.lookStore]
  cases hgot : (RateStore.get t.store c).1 with
  | error e => rfl
  | ok r? =>
    cases r? with
    | none => rfl
    | some r =>
      have htrusts := h.store r hgot
      simp only [Lookup.inStore, Lookup.judge_of_trusts htrusts]

theorem accepts_live (h : t.Believed p now c) {r : RateRecord} (hr : t.live now c = .ok r)
    (mode : Mode) : p.Accepts mode r :=
  Policy.accepts_of_trusts (h.source r hr) mode

theorem verdict (h : t.Believed p now c) :
    t.verdict p now mode c = t.verdict p now mode' c := by
  have hfirst : t.lookFirst p now mode c = t.lookFirst p now mode' c := h.lookFirst
  have hcache : t.lookCache p now mode c = t.lookCache p now mode' c := h.lookCache
  have hstore : t.lookStore p now mode c = t.lookStore p now mode' c := h.lookStore
  rw [Tiers.verdict, Tiers.verdict, hfirst, hcache, hstore]
  cases (t.lookFirst p now mode' c).hit? with
  | some r => rfl
  | none =>
    cases (t.lookCache p now mode' c).hit? with
    | some r => rfl
    | none =>
      cases (t.lookStore p now mode' c).hit? with
      | some r => rfl
      | none =>
        cases hlive : t.live now c with
        | error e => rfl
        | ok r => simp only [h.accepts_live hlive]

theorem not_refused (h : t.Believed p now c) (r : RateRecord) :
    t.verdict p now mode c ≠ .refused r := by
  intro hv
  obtain ⟨hlive, hrefused⟩ := live_of_refused hv
  exact hrefused (h.accepts_live hlive mode)

theorem stored_eq (h : t.Believed p now c)
    (hs : (t.lookStore p now mode c).hit? = none) :
    t.lookStore p now mode c = match t.stored? c with
      | some r => .stale r
      | none => .miss := by
  have hlook : t.lookStore p now mode c = match t.stored? c with
      | some r => if p.Accepts mode r then .stale r else .untrusted r
      | none => .miss := Lookup.inStore_eq_of_no_hit hs
  cases hr : t.stored? c with
  | none => rw [hlook, hr]
  | some r =>
    have htrusts := h.store r (readable?_eq_some_iff.1 hr)
    rw [hlook, hr]
    exact if_pos (Policy.accepts_of_trusts htrusts mode)

theorem seen_eq (h : t.Believed p now c) : t.seen p now mode c = none := by
  refine Option.eq_none_iff_forall_ne_some.2 fun r hr ↦ ?_
  rw [seen, Option.orElse_eq_orElse, Option.orElse_eq_or, Option.or_eq_some_iff] at hr
  rcases hr with hr | ⟨-, hr⟩
  · obtain ⟨e, he, rfl, ha, -⟩ := Lookup.untrusted?_inFirst_eq_some_iff.1 hr
    exact ha (Policy.accepts_of_trusts (h.first e he) mode)
  · obtain ⟨hgot, ha, -⟩ := Lookup.untrusted?_inCache_eq_some_iff.1 hr
    exact ha (Policy.accepts_of_trusts (h.cache r hgot) mode)

theorem rateOf_of_not_failed (h : t.Believed p now c)
    (hv : ∀ e, t.verdict p now mode c ≠ .failed e) :
    t.rateOf p now mode c = t.rateOf p now mode' c := by
  by_cases hc : c = .usd
  · subst hc
    rw [rateOf_usd, rateOf_usd]
  · have hsame : t.verdict p now mode' c = t.verdict p now mode c := h.verdict
    rw [rateOf_eq hc, rateOf_eq hc, hsame]
    cases hverdict : t.verdict p now mode c with
    | found o r => rfl
    | refused r => exact absurd hverdict (h.not_refused r)
    | failed e => exact absurd hverdict (hv e)

theorem rateOf_of_failed (h : t.Believed p now c) (hc : c ≠ .usd) {cause : SourceError}
    (hv : t.verdict p now mode c = .failed cause) :
    t.rateOf p now .strict c = (.error (match t.stored? c with
      | some r => .stale c r.capturedAt
      | none => .unavailable c cause), t.askSource now c) ∧
    t.rateOf p now .nonStrict c = (.ok (match t.stored? c with
      | some r => r.rate
      | none => .one), t.askSource now c) := by
  have hverdict (mode' : Mode) : t.verdict p now mode' c = .failed cause := h.verdict.trans hv
  have hlook (mode' : Mode) : t.lookStore p now mode' c = match t.stored? c with
      | some r => .stale r
      | none => .miss := h.stored_eq (live_of_failed (hverdict mode')).2
  rw [rateOf_eq hc, rateOf_eq hc, hverdict, hverdict]
  simp only [answer, hlook, h.seen_eq, after]
  cases t.stored? c with
  | some r => exact ⟨rfl, rfl⟩
  | none => exact ⟨rfl, rfl⟩

end Believed

/-- The source has failed: a strict caller hears `e`, and one who does not insist gets `rate`. -/
structure Parts (t : Tiers κ σ π) (p : Policy) (now : Instant) (c : CurrencyCode)
    (e : ResolveError) (rate : Decimal) : Prop where
  failure : ∃ cause, t.live now c = .error cause ∧
    ((∃ capturedAt, e = .stale c capturedAt) ∨ e = .unavailable c cause)
  strict : t.rateOf p now .strict c = (.error e, t.askSource now c)
  nonStrict : t.rateOf p now .nonStrict c = (.ok rate, t.askSource now c)

theorem Believed.rateOf (h : t.Believed p now c) :
    t.rateOf p now .strict c = t.rateOf p now .nonStrict c ∨
      ∃ e rate, t.Parts p now c e rate := by
  by_cases hc : c = .usd
  · subst hc
    rw [rateOf_usd, rateOf_usd]
    exact .inl rfl
  · cases hv : t.verdict p now .strict c with
    | found o r => exact .inl (h.rateOf_of_not_failed fun e he ↦ by simp [hv] at he)
    | refused r => exact absurd hv (h.not_refused r)
    | failed cause =>
      obtain ⟨hstrict, hnonStrict⟩ := h.rateOf_of_failed hc hv
      refine .inr ⟨_, _, ⟨cause, (live_of_failed hv).1, ?_⟩, hstrict, hnonStrict⟩
      cases t.stored? c with
      | some r => exact .inl ⟨r.capturedAt, rfl⟩
      | none => exact .inr rfl

end Tiers

end TieredRates
