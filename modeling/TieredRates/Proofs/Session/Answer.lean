import TieredRates.Proofs.Http.Response
import TieredRates.Proofs.Resolution.Strict
import TieredRates.Proofs.Session.Run

namespace TieredRates

theorem Step.asks_of_question {a : Step} {q : Mode × CurrencyCode} (h : a.question? = some q) :
    a.Asks := by
  cases a with
  | resolve | convert | list | request => trivial
  | _ => exact nomatch h

/-- The amount follows from the record as the step's answer does from a rate. -/
def Step.Quotes (r : RateRecord) (x : Decimal) : Step → Prop
  | .resolve .. => x = r.rate
  | .convert _ direction amount _ => direction.convert? amount r.rate = some x
  | _ => False

namespace Session

variable {s s' : Session} {a : Step} {c : CurrencyCode}

section Congr

variable (ha : a.Asks) (hpolicy : s.policy = s'.policy) (hnow : s.now = s'.now)

include ha hpolicy hnow

theorem step_congr (hrate : ∀ mode c, a.question? = some (mode, c) →
      (s.tiers.rateOf s.policy s.now mode c).1 = (s'.tiers.rateOf s.policy s.now mode c).1)
    (hrates : a.question? = none →
      (s.tiers.rates s.policy s.now).1 = (s'.tiers.rates s.policy s.now).1) :
    (s.step a).1 = (s'.step a).1 := by
  cases a with
  | resolve mode code =>
    have hresolve : (s.tiers.resolve s.policy s.now mode code).1 =
        (s'.tiers.resolve s.policy s.now mode code).1 :=
      Tiers.resolve_congr fun c hc ↦ hrate mode c (by simp [Step.question?, hc])
    simp only [step, finish, ← hpolicy, ← hnow, hresolve]
  | convert mode direction amount code =>
    have hconvert : (s.tiers.convert s.policy s.now mode direction amount code).1 =
        (s'.tiers.convert s.policy s.now mode direction amount code).1 :=
      Tiers.convert_congr (fun c hc ↦ hrate mode c (by simp [Step.question?, hc])) direction amount
    simp only [step, finish, ← hpolicy, ← hnow, hconvert]
  | list => simp only [step, proceed, ← hpolicy, ← hnow, hrates rfl]
  | request q =>
    have hrespond := Http.respond_congr hrate hrates
    simp only [step, proceed, ← hpolicy, ← hnow, hrespond]
  | _ => exact ha.elim

omit hpolicy hnow in
theorem step_now_of_asks : (s.step a).2.now = s.now := by
  rw [step_now]
  cases a with
  | resolve | convert | list | request => rfl
  | _ => exact ha.elim

theorem step_rel {R : ServiceTiers → ServiceTiers → Prop} (h : R s.tiers s'.tiers)
    (hrate : ∀ mode c, a.question? = some (mode, c) →
      R (s.tiers.rateOf s.policy s.now mode c).2 (s'.tiers.rateOf s.policy s.now mode c).2)
    (hrates : R (s.tiers.rates s.policy s.now).2 (s'.tiers.rates s.policy s.now).2) :
    R (s.step a).2.tiers (s'.step a).2.tiers := by
  cases hq : a.question? with
  | some q =>
    rw [step_tiers_of_question hq, step_tiers_of_question hq, ← hpolicy, ← hnow]
    exact hrate q.1 q.2 hq
  | none =>
    cases a with
    | resolve mode code =>
      have hcode : CurrencyCode.parse? code = none := Option.map_eq_none_iff.1 hq
      simp only [step, finish, Tiers.resolve_tiers, hcode]
      exact h
    | convert mode direction amount code =>
      have hcode : CurrencyCode.parse? code = none := Option.map_eq_none_iff.1 hq
      simp only [step, finish, Tiers.convert_tiers, hcode]
      exact h
    | list =>
      simp only [step, proceed, ← hpolicy, ← hnow]
      exact hrates
    | request q =>
      simp only [step, proceed, ← hpolicy, ← hnow]
      exact Http.respond_rel h hrate hrates
    | _ => exact ha.elim

end Congr

theorem step_resolve_eq_ok {mode : Mode} {code : String} {rate : Decimal}
    (hcode : CurrencyCode.parse code = .ok c)
    (h : (s.step (.resolve mode code)).1 = .ok (.amount rate)) :
    (s.tiers.rateOf s.policy s.now mode c).1 = .ok rate := by
  obtain ⟨x, hx, ha⟩ := finish_eq_ok h
  rw [Tiers.resolve_eq_rateOf hcode] at hx
  obtain rfl : x = rate := by simpa using ha
  exact hx

theorem step_convert_eq_ok {mode : Mode} {direction : Direction} {amount x : Decimal}
    {code : String} (hcode : CurrencyCode.parse code = .ok c)
    (h : (s.step (.convert mode direction amount code)).1 = .ok (.amount x)) :
    ∃ rate, (s.tiers.rateOf s.policy s.now mode c).1 = .ok rate ∧
      direction.convert? amount rate = some x := by
  obtain ⟨y, hy, ha⟩ := finish_eq_ok h
  obtain rfl : y = x := by simpa using ha
  rw [Tiers.convert_eq_rateOf hcode] at hy
  cases hrate : (s.tiers.rateOf s.policy s.now mode c).1 with
  | error e => simp [hrate, Except.bind] at hy
  | ok rate =>
    rw [hrate] at hy
    exact ⟨rate, rfl, Direction.convertAt_eq_ok_iff.1 hy⟩

theorem exists_found_of_amount (hc : c ≠ .usd) (hq : a.question? = some (.strict, c)) {x : Decimal}
    (h : (s.step a).1 = .ok (.amount x)) :
    ∃ o r, s.tiers.verdict s.policy s.now .strict c = .found o r ∧ a.Quotes r x := by
  cases a with
  | resolve mode code =>
    obtain ⟨_, hcode, heq⟩ := Option.map_eq_some_iff.1 hq
    obtain ⟨rfl, rfl⟩ := Prod.mk.inj heq
    have hrate := step_resolve_eq_ok (CurrencyCode.parse_eq_ok_iff.2 hcode) h
    exact (Tiers.rateOf_eq_ok_iff hc (.inl rfl)).1 hrate
  | convert mode direction amount code =>
    obtain ⟨_, hcode, heq⟩ := Option.map_eq_some_iff.1 hq
    obtain ⟨rfl, rfl⟩ := Prod.mk.inj heq
    obtain ⟨rate, hrate, hx⟩ := step_convert_eq_ok (CurrencyCode.parse_eq_ok_iff.2 hcode) h
    obtain ⟨o, r, hv, rfl⟩ := (Tiers.rateOf_eq_ok_iff hc (.inl rfl)).1 hrate
    exact ⟨o, r, hv, hx⟩
  | request q => exact nomatch h
  | _ => exact nomatch hq

end Session

end TieredRates
