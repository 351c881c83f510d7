import TieredRates.Proofs.Currency
import TieredRates.Session

namespace TieredRates

namespace Http

def Route.question? (query : List Char) : Route → Option (Mode × CurrencyCode)
  | .rate segment => do
    let currency ← Text.ofUtf8? (Text.percentBytes segment)
    let q ← (RateQuery.ofQuery query).toOption
    return (q.mode, ← CurrencyCode.parse? (String.ofList currency))
  | .convert => do
    let q ← (ConversionQuery.ofQuery query).toOption
    return (q.mode, ← CurrencyCode.parse? q.currency)
  | _ => none

def Request.question? (q : Request) : Option (Mode × CurrencyCode) :=
  let target := splitTarget q.target
  if q.method = "GET" ∨ q.method = "HEAD" then
    (Route.ofPath? target.1).bind (Route.question? target.2)
  else none

end Http

def Step.question? : Step → Option (Mode × CurrencyCode)
  | .resolve mode code => (CurrencyCode.parse? code).map (mode, ·)
  | .convert mode _ _ code => (CurrencyCode.parse? code).map (mode, ·)
  | .request q => q.question?
  | _ => none

/-- The step is one of those that the resolver serves, apart from recording. -/
def Step.Asks : Step → Prop
  | .resolve .. | .convert .. | .list | .request .. => True
  | _ => False

namespace Tiers

variable {κ σ π : Type} [SharedCache κ] [RateStore σ] [LiveSource π]
variable {t : Tiers κ σ π} {p : Policy} {now : Instant} {mode : Mode} {c : CurrencyCode}

theorem resolve_tiers (code : String) :
    (t.resolve p now mode code).2 = match CurrencyCode.parse? code with
      | some c => (t.rateOf p now mode c).2
      | none => t := by
  rw [resolve, CurrencyCode.parse]
  cases CurrencyCode.parse? code <;> rfl

theorem convert_tiers (direction : Direction) (amount : Decimal) (code : String) :
    (t.convert p now mode direction amount code).2 = match CurrencyCode.parse? code with
      | some c => (t.rateOf p now mode c).2
      | none => t := by
  rw [convert, CurrencyCode.parse]
  cases CurrencyCode.parse? code with
  | none => rfl
  | some c =>
    simp only
    split
    · rfl
    · split <;> rfl

theorem answerRate_tiers (currency : String) (query : Except QueryFault RateQuery) :
    (t.answerRate p now currency query).2 =
      match query, CurrencyCode.parse? currency with
      | .ok q, some c => (t.rateOf p now q.mode c).2
      | _, _ => t := by
  cases query with
  | error fault => rfl
  | ok q =>
    rw [answerRate, CurrencyCode.parse]
    cases CurrencyCode.parse? currency with
    | none => rfl
    | some c =>
      simp only [resolve, CurrencyCode.parse_text]
      split <;> rfl

theorem answerConversion_tiers (query : Except QueryFault ConversionQuery) :
    (t.answerConversion p now query).2 =
      match query with
      | .ok q => match CurrencyCode.parse? q.currency with
        | some c => (t.rateOf p now q.mode c).2
        | none => t
      | .error _ => t := by
  cases query with
  | error fault => rfl
  | ok q =>
    simp only [answerConversion, CurrencyCode.parse]
    cases CurrencyCode.parse? q.currency with
    | none => rfl
    | some c =>
      have h := CurrencyCode.parse_eq_ok_iff.1 c.parse_text
      have ht : (t.convert p now q.mode q.direction q.amount c.text).2 =
          (t.rateOf p now q.mode c).2 := by rw [convert_tiers, h]
      simp only
      split <;> exact ht

end Tiers

namespace Http

variable {κ σ π : Type} [SharedCache κ] [RateStore σ] [LiveSource π]
variable {t : Tiers κ σ π} {p : Policy} {now : Instant} {mode : Mode} {c : CurrencyCode}

theorem read_tiers (query : List Char) (route : Route) :
    (read t p now query route).2 = match route.question? query with
      | some (mode, c) => (t.rateOf p now mode c).2
      | none => if route = .rates then (t.rates p now).2 else t := by
  cases route with
  | health => rfl
  | rates => rfl
  | document => rfl
  | rate segment =>
    simp only [read, Route.question?]
    cases Text.ofUtf8? (Text.percentBytes segment) with
    | none => rfl
    | some currency =>
      simp only [Tiers.answerRate_tiers]
      cases RateQuery.ofQuery query with
      | error fault => rfl
      | ok q =>
        simp only [Except.toOption, Option.bind_eq_bind, Option.bind_some]
        cases CurrencyCode.parse? (String.ofList currency) <;> rfl
  | convert =>
    simp only [read, Route.question?, Tiers.answerConversion_tiers]
    cases ConversionQuery.ofQuery query with
    | error fault => rfl
    | ok q =>
      simp only [Except.toOption, Option.bind_eq_bind, Option.bind_some]
      cases CurrencyCode.parse? q.currency <;> rfl

theorem respond_tiers_of_question {q : Request} (h : q.question? = some (mode, c)) :
    (respond t p now q).2 = (t.rateOf p now mode c).2 := by
  simp only [Request.question?, Option.ite_none_right_eq_some, Option.bind_eq_some_iff] at h
  obtain ⟨hm, route, hroute, hq⟩ := h
  have hr : (read t p now (splitTarget q.target).2 route).2 = (t.rateOf p now mode c).2 := by
    rw [read_tiers, hq]
  rcases hm with hm | hm
  · simp [respond, hm, hroute, hr]
  · simp [respond, hm, hroute, hr]

theorem respond_tiers_of_none {q : Request} (h : q.question? = none) :
    (respond t p now q).2 = t ∨ (respond t p now q).2 = (t.rates p now).2 := by
  have hread {route : Route} (hroute : Route.ofPath? (splitTarget q.target).1 = some route)
      (hm : q.method = "GET" ∨ q.method = "HEAD") :
      (read t p now (splitTarget q.target).2 route).2 = t ∨
        (read t p now (splitTarget q.target).2 route).2 = (t.rates p now).2 := by
    rw [Request.question?] at h
    simp only [hm, if_true, hroute, Option.bind_some] at h
    rw [read_tiers, h]
    by_cases hr : route = .rates
    · exact .inr (if_pos hr)
    · exact .inl (if_neg hr)
  rw [respond]
  split
  · exact .inl rfl
  · split
    · exact .inl rfl
    · next route hroute =>
      split
      · next hm => exact hread hroute (.inl hm)
      · split
        · next hm => exact hread hroute (.inr hm)
        · exact .inl rfl

end Http

namespace Session

theorem step_tiers_of_question {s : Session} {a : Step} {mode : Mode} {c : CurrencyCode}
    (h : a.question? = some (mode, c)) :
    (s.step a).2.tiers = (s.tiers.rateOf s.policy s.now mode c).2 := by
  cases a with
  | resolve m code =>
    simp only [Step.question?, Option.map_eq_some_iff, Prod.mk.injEq] at h
    obtain ⟨_, hc, rfl, rfl⟩ := h
    exact (Tiers.resolve_tiers code).trans (by rw [hc])
  | convert m direction amount code =>
    simp only [Step.question?, Option.map_eq_some_iff, Prod.mk.injEq] at h
    obtain ⟨_, hc, rfl, rfl⟩ := h
    exact (Tiers.convert_tiers direction amount code).trans (by rw [hc])
  | request q => exact Http.respond_tiers_of_question h
  | _ => exact absurd h (by simp [Step.question?])

theorem step_tiers_of_none {s : Session} {a : Step} (h : a.question? = none) (ha : a.Asks) :
    (s.step a).2.tiers = s.tiers ∨ (s.step a).2.tiers = (s.tiers.rates s.policy s.now).2 := by
  cases a with
  | resolve mode code =>
    simp only [Step.question?, Option.map_eq_none_iff] at h
    exact .inl ((Tiers.resolve_tiers code).trans (by rw [h]))
  | convert mode direction amount code =>
    simp only [Step.question?, Option.map_eq_none_iff] at h
    exact .inl ((Tiers.convert_tiers direction amount code).trans (by rw [h]))
  | list => exact .inr rfl
  | request q => exact Http.respond_tiers_of_none h
  | _ => exact ha.elim

end Session

end TieredRates
