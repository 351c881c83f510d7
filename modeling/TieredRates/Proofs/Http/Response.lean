import TieredRates.Proofs.Session.Question

namespace TieredRates

variable {κ σ π κ' σ' π' : Type} [SharedCache κ] [RateStore σ] [LiveSource π]
variable [SharedCache κ'] [RateStore σ'] [LiveSource π']
variable {t : Tiers κ σ π} {t' : Tiers κ' σ' π'} {p : Policy} {now : Instant}

namespace Tiers

variable {mode : Mode} {code : String}

section Code

variable (hrate : ∀ c, CurrencyCode.parse? code = some c →
  (t.rateOf p now mode c).1 = (t'.rateOf p now mode c).1)

include hrate

theorem resolve_congr : (t.resolve p now mode code).1 = (t'.resolve p now mode code).1 := by
  rw [resolve, resolve]
  cases hc : CurrencyCode.parse code with
  | error e => rfl
  | ok c => exact hrate c (CurrencyCode.parse_eq_ok_iff.1 hc)

theorem convert_congr (direction : Direction) (amount : Decimal) :
    (t.convert p now mode direction amount code).1 =
      (t'.convert p now mode direction amount code).1 := by
  rw [convert, convert]
  cases hc : CurrencyCode.parse code with
  | error e => rfl
  | ok c =>
    simp only [hrate c (CurrencyCode.parse_eq_ok_iff.1 hc)]
    cases (t'.rateOf p now mode c).1 with
    | error e => rfl
    | ok rate =>
      simp only
      cases direction.convert? amount rate <;> rfl

end Code

theorem parsed_text {c : CurrencyCode}
    (h : (t.rateOf p now mode c).1 = (t'.rateOf p now mode c).1) :
    ∀ d, CurrencyCode.parse? c.text = some d →
      (t.rateOf p now mode d).1 = (t'.rateOf p now mode d).1 := by
  intro d hd
  have hc := CurrencyCode.parse_eq_ok_iff.1 c.parse_text
  obtain rfl := Option.some.inj (hc.symm.trans hd)
  exact h

theorem answerRate_congr {currency : String} {query : Except QueryFault RateQuery}
    (hrate : ∀ q c, query = .ok q → CurrencyCode.parse? currency = some c →
      (t.rateOf p now q.mode c).1 = (t'.rateOf p now q.mode c).1) :
    (t.answerRate p now currency query).1 = (t'.answerRate p now currency query).1 := by
  cases query with
  | error fault => rfl
  | ok q =>
    rw [answerRate, answerRate]
    cases hc : CurrencyCode.parse currency with
    | error e => rfl
    | ok c =>
      have hresolve := resolve_congr
        (parsed_text (hrate q c rfl (CurrencyCode.parse_eq_ok_iff.1 hc)))
      simp only [hresolve]
      cases (t'.resolve p now q.mode c.text).1 <;> rfl

theorem answerConversion_congr {query : Except QueryFault ConversionQuery}
    (hrate : ∀ q c, query = .ok q → CurrencyCode.parse? q.currency = some c →
      (t.rateOf p now q.mode c).1 = (t'.rateOf p now q.mode c).1) :
    (t.answerConversion p now query).1 = (t'.answerConversion p now query).1 := by
  cases query with
  | error fault => rfl
  | ok q =>
    rw [answerConversion, answerConversion]
    cases hc : CurrencyCode.parse q.currency with
    | error e => rfl
    | ok c =>
      have hconvert := convert_congr
        (parsed_text (hrate q c rfl (CurrencyCode.parse_eq_ok_iff.1 hc))) q.direction q.amount
      simp only [hconvert]
      cases (t'.convert p now q.mode q.direction q.amount c.text).1 <;> rfl

end Tiers

namespace Http

theorem read_congr {query : List Char} {route : Route}
    (hrate : ∀ mode c, route.question? query = some (mode, c) →
      (t.rateOf p now mode c).1 = (t'.rateOf p now mode c).1)
    (hrates : route.question? query = none → (t.rates p now).1 = (t'.rates p now).1) :
    (read t p now query route).1 = (read t' p now query route).1 := by
  cases route with
  | health => rfl
  | document => rfl
  | rates => simp only [read, hrates rfl]
  | convert =>
    have hanswer : (t.answerConversion p now (ConversionQuery.ofQuery query)).1 =
        (t'.answerConversion p now (ConversionQuery.ofQuery query)).1 := by
      refine Tiers.answerConversion_congr fun q c hq hc ↦ hrate q.mode c ?_
      simp [Route.question?, hq, hc, Except.toOption]
    simp only [read, hanswer]
  | rate segment =>
    rw [read, read]
    cases hcurrency : Text.ofUtf8? (Text.percentBytes segment) with
    | none => rfl
    | some currency =>
      have hanswer : (t.answerRate p now (String.ofList currency) (RateQuery.ofQuery query)).1 =
          (t'.answerRate p now (String.ofList currency) (RateQuery.ofQuery query)).1 := by
        refine Tiers.answerRate_congr fun q c hq hc ↦ hrate q.mode c ?_
        simp [Route.question?, hcurrency, hq, hc, Except.toOption]
      simp only [hanswer]

theorem question?_of_route {q : Request} {route : Route}
    (hroute : Route.ofPath? (splitTarget q.target).1 = some route)
    (hm : q.method = "GET" ∨ q.method = "HEAD") :
    q.question? = route.question? (splitTarget q.target).2 := by
  simp [Request.question?, hm, hroute]

theorem respond_congr {q : Request}
    (hrate : ∀ mode c, q.question? = some (mode, c) →
      (t.rateOf p now mode c).1 = (t'.rateOf p now mode c).1)
    (hrates : q.question? = none → (t.rates p now).1 = (t'.rates p now).1) :
    (respond t p now q).1 = (respond t' p now q).1 := by
  rw [respond, respond]
  split
  · rfl
  · cases hroute : Route.ofPath? (splitTarget q.target).1 with
    | none => rfl
    | some route =>
      simp only
      split
      · next hm =>
        rw [question?_of_route hroute (.inl hm)] at hrate hrates
        exact read_congr hrate hrates
      · split
        · next hm =>
          rw [question?_of_route hroute (.inr hm)] at hrate hrates
          simp only [read_congr hrate hrates]
        · rfl

variable {R : Tiers κ σ π → Tiers κ' σ' π' → Prop}

theorem read_rel {query : List Char} {route : Route} (h : R t t')
    (hrate : ∀ mode c, route.question? query = some (mode, c) →
      R (t.rateOf p now mode c).2 (t'.rateOf p now mode c).2)
    (hrates : R (t.rates p now).2 (t'.rates p now).2) :
    R (read t p now query route).2 (read t' p now query route).2 := by
  rw [read_tiers, read_tiers]
  cases hq : route.question? query with
  | some q => exact hrate q.1 q.2 hq
  | none =>
    simp only
    split
    · exact hrates
    · exact h

theorem respond_rel {q : Request} (h : R t t')
    (hrate : ∀ mode c, q.question? = some (mode, c) →
      R (t.rateOf p now mode c).2 (t'.rateOf p now mode c).2)
    (hrates : R (t.rates p now).2 (t'.rates p now).2) :
    R (respond t p now q).2 (respond t' p now q).2 := by
  rw [respond, respond]
  split
  · exact h
  · cases hroute : Route.ofPath? (splitTarget q.target).1 with
    | none => exact h
    | some route =>
      simp only
      split
      · next hm =>
        rw [question?_of_route hroute (.inl hm)] at hrate
        exact read_rel h hrate hrates
      · split
        · next hm =>
          rw [question?_of_route hroute (.inr hm)] at hrate
          exact read_rel h hrate hrates
        · exact h

end Http

end TieredRates
