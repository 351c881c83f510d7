import TieredRates.Proofs.Decimal.Quotient
import TieredRates.Proofs.Resolution.NonStrict

namespace TieredRates

namespace Decimal

variable {a b y : Decimal}

theorem SameValue.refl (a : Decimal) : a.SameValue a := rfl

theorem sameValue_zero (h : a.size = 0) : zero.SameValue a := by
  have ha : a.coefficient = 0 := coefficient_eq_zero_iff.2 h
  have h0 : zero.coefficient = 0 := rfl
  rw [SameValue, ha, h0, Int.zero_mul, Int.zero_mul]

theorem div?_mul? (hsize : a.size * b.size < room) (hscale : a.scale + b.scale ≤ maxScale)
    (hb : b.size ≠ 0) (hy : a.mul? b = some y) : ∃ z, y.div? b = some z ∧ z.SameValue a := by
  by_cases ha : a.size = 0
  · obtain rfl := Option.some.inj ((mul?_of_zero (.inl ha)).symm.trans hy)
    refine ⟨zero, ?_, sameValue_zero ha⟩
    rw [div?, if_neg hb]
    exact if_pos rfl
  · obtain rfl := Option.some.inj ((mul?_of_lt ha hb hsize hscale).symm.trans hy)
    exact ⟨a, div?_of_signs rfl rfl rfl ha hb, SameValue.refl a⟩

theorem mul?_one (a : Decimal) : ∃ y, a.mul? one = some y ∧ y.SameValue a := by
  have hsize : a.size * one.size < room := (Nat.mul_one a.size).symm ▸ a.size_lt
  obtain ⟨y, hy, hproduct⟩ := exists_mul?_of_lt (a := a) (b := one) hsize a.scale_le
  have h1 : one.coefficient = 1 := rfl
  refine ⟨y, hy, ?_⟩
  rw [IsProduct, h1, Int.mul_one] at hproduct
  exact hproduct

theorem div?_one (a : Decimal) : ∃ y, a.div? one = some y ∧ y.SameValue a := by
  have h1 : one.size ≠ 0 := by decide
  by_cases ha : a.size = 0
  · refine ⟨zero, ?_, sameValue_zero ha⟩
    rw [div?, if_neg h1, if_pos ha]
  · have hsign : a.negative = oppositeSigns a one := by
      rw [oppositeSigns]
      cases a.negative <;> rfl
    exact ⟨a, div?_of_signs hsign (Nat.mul_one _).symm rfl ha h1, SameValue.refl a⟩

end Decimal

namespace Direction

open Decimal

/-- There is no room for the converted amount, not even when it is rounded to a whole number. -/
def Overflows : Direction → Decimal → Decimal → Prop
  | fromUsd, amount, rate => Exceeds (amount.size * rate.size) (tenTo (amount.scale + rate.scale))
  | toUsd, amount, rate => Exceeds (amount.size * tenTo rate.scale) (rate.size * tenTo amount.scale)

variable {direction : Direction} {amount rate : Decimal} {c : CurrencyCode}

theorem convert?_eq_none_iff (h : rate.IsPositive) :
    direction.convert? amount rate = none ↔ direction.Overflows amount rate := by
  cases direction with
  | fromUsd => exact mul?_eq_none_iff
  | toUsd => exact div?_eq_none_iff (Nat.ne_of_gt h.size_pos)

theorem convert?_one (direction : Direction) (amount : Decimal) :
    ∃ y, direction.convert? amount one = some y ∧ y.SameValue amount := by
  cases direction with
  | fromUsd => exact mul?_one amount
  | toUsd => exact div?_one amount

theorem convertAt_eq_error_iff (h : rate.IsPositive) {e : ResolveError} :
    direction.convertAt c amount rate = .error e ↔
      direction.Overflows amount rate ∧ e = .overflow amount c := by
  rw [← convert?_eq_none_iff h, convertAt]
  cases direction.convert? amount rate with
  | none => simp [eq_comm]
  | some y => simp

end Direction

namespace Tiers

variable {κ σ π : Type} [SharedCache κ] [RateStore σ] [LiveSource π]
variable {t : Tiers κ σ π} {p : Policy} {now : Instant} {mode : Mode} {c : CurrencyCode}
variable {code : String} {rate : Decimal}

theorem isPositive_of_degrade {stored : Lookup} {seen : Option RateRecord} {e : SourceError}
    (h : p.degrade mode c stored seen e = .ok rate) : rate.IsPositive := by
  cases mode with
  | strict => exact absurd h (Policy.degrade_strict_ne_ok _ _ _ _ _ _)
  | nonStrict =>
    rw [Policy.degrade] at h
    cases hr : stored.record? with
    | none =>
      simp only [hr] at h
      obtain rfl := Except.ok.inj h
      exact Decimal.one_isPositive
    | some r =>
      simp only [hr] at h
      obtain rfl := Except.ok.inj h
      exact r.rate_pos

theorem isPositive_of_rateOf (h : (t.rateOf p now mode c).1 = .ok rate) : rate.IsPositive := by
  by_cases hc : c = .usd
  · rw [hc, rateOf_usd] at h
    obtain rfl := Except.ok.inj h
    exact Decimal.one_isPositive
  rw [rateOf_eq hc] at h
  cases hv : t.verdict p now mode c with
  | found o r =>
    rw [hv] at h
    obtain rfl := Except.ok.inj h
    exact r.rate_pos
  | refused r => simp [hv, answer] at h
  | failed e =>
    rw [hv] at h
    exact isPositive_of_degrade h

theorem parse_of_resolve (h : (t.resolve p now mode code).1 = .ok rate) :
    ∃ c, CurrencyCode.parse code = .ok c ∧ (t.rateOf p now mode c).1 = .ok rate := by
  cases hcode : CurrencyCode.parse code with
  | error e => simp [resolve, hcode] at h
  | ok c =>
    rw [resolve_eq_rateOf hcode] at h
    exact ⟨c, rfl, h⟩

theorem isPositive_of_resolve (h : (t.resolve p now mode code).1 = .ok rate) :
    rate.IsPositive := by
  obtain ⟨c, -, hrate⟩ := parse_of_resolve h
  exact isPositive_of_rateOf hrate

theorem convert_of_resolve {direction : Direction} {x y : Decimal}
    (h : (t.resolve p now mode code).1 = .ok rate) (hy : direction.convert? x rate = some y) :
    (t.convert p now mode direction x code).1 = .ok y := by
  obtain ⟨c, hcode, hrate⟩ := parse_of_resolve h
  rw [convert_eq_rateOf hcode]
  simp only [hrate, Except.bind]
  exact Direction.convertAt_eq_ok_iff.2 hy

theorem convert_eq_error_iff {direction : Direction} {x : Decimal} {e : ResolveError} :
    (t.convert p now mode direction x code).1 = .error e ↔
      (t.resolve p now mode code).1 = .error e ∨
      ∃ c r, CurrencyCode.parse code = .ok c ∧ (t.resolve p now mode code).1 = .ok r ∧
        direction.Overflows x r ∧ e = .overflow x c := by
  cases hcode : CurrencyCode.parse code with
  | error e' => simp [convert, resolve, hcode]
  | ok c =>
    rw [convert_eq_rateOf hcode, resolve_eq_rateOf hcode]
    cases hrate : (t.rateOf p now mode c).1 with
    | error e' => simp [Except.bind]
    | ok r =>
      simp only [Except.bind, Direction.convertAt_eq_error_iff (isPositive_of_rateOf hrate),
        reduceCtorEq, false_or, Except.ok.injEq]
      constructor
      · rintro ⟨hover, he⟩
        exact ⟨c, r, rfl, rfl, hover, he⟩
      · rintro ⟨_, _, rfl, rfl, hover, he⟩
        exact ⟨hover, he⟩

/-- A conversion is exact if it can be, and then the way back at the same rate leads to the amount,
wherever that rate is the answer. Only room can be lacking beyond what a question fails with. -/
theorem convert_exact (t : Tiers κ σ π) (p : Policy) (now : Instant) (mode : Mode) (code : String) :
    (∀ r, (t.resolve p now mode code).1 = .ok r → r.IsPositive ∧
      ∀ x : Decimal, (x.coefficient * r.coefficient).natAbs < 2 ^ 96 → x.scale + r.scale ≤ 28 →
        ∃ y, (t.convert p now mode .fromUsd x code).1 = .ok y ∧ y.IsProduct x r ∧
          ∀ (t' : Tiers κ σ π) (p' : Policy) (now' : Instant) (mode' : Mode) (code' : String),
            (t'.resolve p' now' mode' code').1 = .ok r →
              ∃ z, (t'.convert p' now' mode' .toUsd y code').1 = .ok z ∧ z.SameValue x) ∧
    (CurrencyCode.parse code = .ok .usd → ∀ direction x,
      ∃ y, (t.convert p now mode direction x code).1 = .ok y ∧ y.SameValue x) ∧
    ∀ direction x e, (t.convert p now mode direction x code).1 = .error e ↔
      (t.resolve p now mode code).1 = .error e ∨
      ∃ c r, CurrencyCode.parse code = .ok c ∧ (t.resolve p now mode code).1 = .ok r ∧
        direction.Overflows x r ∧ e = .overflow x c := by
  refine ⟨?_, ?_, fun _ _ _ ↦ convert_eq_error_iff⟩
  · intro r hr
    have hpos := isPositive_of_resolve hr
    refine ⟨hpos, ?_⟩
    intro x hsize hscale
    rw [Decimal.natAbs_coefficient_mul] at hsize
    obtain ⟨y, hy, hproduct⟩ := Decimal.exists_mul?_of_lt hsize hscale
    refine ⟨y, convert_of_resolve hr hy, hproduct, ?_⟩
    intro t' p' now' mode' code' hr'
    obtain ⟨z, hz, hsame⟩ := Decimal.div?_mul? hsize hscale (Nat.ne_of_gt hpos.size_pos) hy
    exact ⟨z, convert_of_resolve hr' hz, hsame⟩
  · intro hcode direction x
    have hone : (t.resolve p now mode code).1 = .ok .one := by
      rw [resolve_eq_rateOf hcode, rateOf_usd]
    obtain ⟨y, hy, hsame⟩ := direction.convert?_one x
    exact ⟨y, convert_of_resolve hone hy, hsame⟩

end Tiers

def twoAndAHalf : Decimal := { negative := false, size := 25, scale := 1 }

def bankRate : Decimal := (wonRecord "bank" 340 (midnight 8)).rate

theorem convert_exact_won :
    (deadEndTiers.resolve bankPolicy (midnight 20) .nonStrict " krw").1 = .ok bankRate ∧
    (twoAndAHalf.coefficient * bankRate.coefficient).natAbs < 2 ^ 96 ∧
    twoAndAHalf.scale + bankRate.scale ≤ 28 ∧
    ∃ y z, (deadEndTiers.convert bankPolicy (midnight 20) .nonStrict .fromUsd twoAndAHalf
        " krw").1 = .ok y ∧
      y.IsProduct twoAndAHalf bankRate ∧
      (deadEndTiers.convert bankPolicy (midnight 20) .nonStrict .toUsd y "KRW").1 = .ok z ∧
      z.SameValue twoAndAHalf := by
  have hr : (deadEndTiers.resolve bankPolicy (midnight 20) .nonStrict " krw").1 =
      .ok bankRate := by decide +kernel
  have hr' : (deadEndTiers.resolve bankPolicy (midnight 20) .nonStrict "KRW").1 =
      .ok bankRate := by decide +kernel
  have hsize : (twoAndAHalf.coefficient * bankRate.coefficient).natAbs < 2 ^ 96 := by decide +kernel
  have hscale : twoAndAHalf.scale + bankRate.scale ≤ 28 := by decide +kernel
  obtain ⟨-, hconvert⟩ := (Tiers.convert_exact deadEndTiers bankPolicy (midnight 20) .nonStrict
    " krw").1 _ hr
  obtain ⟨y, hy, hproduct, hback⟩ := hconvert twoAndAHalf hsize hscale
  obtain ⟨z, hz, hsame⟩ := hback _ _ _ _ _ hr'
  exact ⟨hr, hsize, hscale, y, z, hy, hproduct, hz, hsame⟩

end TieredRates
