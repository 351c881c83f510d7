import Mathlib.Data.List.Forall2
import TieredRates.Proofs.Resolution.Modes
import TieredRates.Proofs.Session.Question
import TieredRates.Proofs.Session.Run
import TieredRates.Proofs.Tier.Monitor

namespace TieredRates

/-- The steps are the same, except perhaps for the mode of a question. -/
inductive Step.SameButMode : Step → Step → Prop
  | refl (a : Step) : SameButMode a a
  | resolve (mode mode' : Mode) (code : String) :
      SameButMode (.resolve mode code) (.resolve mode' code)
  | convert (mode mode' : Mode) (direction : Direction) (amount : Decimal) (code : String) :
      SameButMode (.convert mode direction amount code) (.convert mode' direction amount code)

namespace Session

/-- If the step asks the source for a record, it gets one. -/
def SourceAnswers (s : Session) (a : Step) : Prop :=
  ∀ mode c, a.question? = some (mode, c) →
    (s.step a).2.tiers.source.gets ≠ s.tiers.source.gets →
    ∃ r, (LiveSource.fetch s.tiers.source s.now c).1 = .ok r

variable {s : Session} {a b : Step} {mode : Mode} {c : CurrencyCode}

theorem SourceAnswers.verdict_ne_failed (h : s.SourceAnswers a)
    (ha : a.question? = some (mode, c)) (hc : c ≠ .usd) (cause : SourceError) :
    s.tiers.verdict s.policy s.now mode c ≠ .failed cause := by
  intro hv
  -- a failed fetch has been counted, so the step has asked the source and must have got a record
  have hasked : (s.step a).2.tiers.source = (LiveSource.fetch s.tiers.source s.now c).2 := by
    rw [step_tiers_of_question ha, Tiers.rateOf_eq hc, Tiers.after_source, hv]
  have hcount : (s.step a).2.tiers.source.gets = s.tiers.source.gets + 1 := by
    rw [hasked]
    exact Monitored.gets_pass ..
  obtain ⟨r, hr⟩ := h mode c ha (by omega)
  have hlive := (Tiers.live_of_failed hv).1
  exact absurd (hlive.symm.trans hr) (by simp)

theorem SourceAnswers.rateOf (h : s.SourceAnswers a) (hopen : s.policy.Unrestricted)
    (ha : a.question? = some (mode, c)) (mode' : Mode) :
    s.tiers.rateOf s.policy s.now mode c = s.tiers.rateOf s.policy s.now mode' c := by
  have hbelieved := Tiers.believed_of_unrestricted hopen s.tiers s.now c
  by_cases hc : c = .usd
  · subst hc
    rw [Tiers.rateOf_usd, Tiers.rateOf_usd]
  · exact hbelieved.rateOf_of_not_failed (h.verdict_ne_failed ha hc)

theorem step_of_sameButMode (hopen : s.policy.Unrestricted) (hab : a.SameButMode b)
    (h : s.SourceAnswers a) : s.step a = s.step b := by
  cases hab with
  | refl => rfl
  | resolve mode mode' code =>
    have hresolve : s.tiers.resolve s.policy s.now mode code =
        s.tiers.resolve s.policy s.now mode' code := by
      rw [Tiers.resolve, Tiers.resolve]
      cases hcode : CurrencyCode.parse code with
      | error e => rfl
      | ok c =>
        have hq : (Step.resolve mode code).question? = some (mode, c) := by
          rw [Step.question?, CurrencyCode.parse_eq_ok_iff.1 hcode, Option.map_some]
        exact h.rateOf hopen hq mode'
    rw [step, step, hresolve]
  | convert mode mode' direction amount code =>
    have hconvert : s.tiers.convert s.policy s.now mode direction amount code =
        s.tiers.convert s.policy s.now mode' direction amount code := by
      cases hcode : CurrencyCode.parse code with
      | error e => simp only [Tiers.convert, hcode]
      | ok c =>
        have hq : (Step.convert mode direction amount code).question? = some (mode, c) := by
          rw [Step.question?, CurrencyCode.parse_eq_ok_iff.1 hcode, Option.map_some]
        rw [Tiers.convert_eq_rateOf hcode, Tiers.convert_eq_rateOf hcode, h.rateOf hopen hq mode']
    rw [step, step, hconvert]

theorem run_of_sameButMode {as bs : List Step} (hopen : s.policy.Unrestricted)
    (hab : List.Forall₂ Step.SameButMode as bs) (h : s.Along SourceAnswers as) :
    s.run as = s.run bs := by
  induction hab generalizing s with
  | nil => rfl
  | cons ha _ ih =>
    have hstep := step_of_sameButMode hopen ha h.1
    have hrest := ih (by rwa [step_policy]) h.2
    rw [run, run, hrest, hstep]

variable {κ σ π : Type} [SharedCache κ] [RateStore σ] [LiveSource π]

/-- Without restrictions and with a source that answers, the modes of questions do not matter to a
run. To one question about an unrestricted currency the mode matters only if the source fails, and
even then the tiers are left alike. -/
theorem modes_agree (s : Session) (as bs : List Step) (t : Tiers κ σ π) (p : Policy)
    (now : Instant) (c : CurrencyCode) (code : String) :
    (s.policy.Unrestricted → List.Forall₂ Step.SameButMode as bs → s.Along SourceAnswers as →
      ∀ n, s.run (as.take n) = s.run (bs.take n)) ∧
    (CurrencyCode.parse code = .ok c → p.authority? c = none → t.SpeaksOf now c →
      (t.resolve p now .strict code).2 = (t.resolve p now .nonStrict code).2 ∧
      (∀ direction amount, (t.convert p now .strict direction amount code).2 =
        (t.convert p now .nonStrict direction amount code).2) ∧
      ((t.resolve p now .strict code).1 = (t.resolve p now .nonStrict code).1 ∧
        (∀ direction amount, (t.convert p now .strict direction amount code).1 =
          (t.convert p now .nonStrict direction amount code).1) ∨
      ∃ cause e rate, (LiveSource.fetch t.source now c).1 = .error cause ∧
        ((∃ capturedAt, e = .stale c capturedAt) ∨ e = .unavailable c cause) ∧
        (t.resolve p now .strict code).1 = .error e ∧
        (t.resolve p now .nonStrict code).1 = .ok rate ∧
        ∀ direction amount, (t.convert p now .strict direction amount code).1 = .error e ∧
          (t.convert p now .nonStrict direction amount code).1 =
            direction.convertAt c amount rate)) := by
  refine ⟨fun hopen hab hanswers n ↦ ?_, fun hcode hopen hspeaks ↦ ?_⟩
  · -- what holds along the run holds along each part that it begins with
    rw [← as.take_append_drop n, along_append_iff] at hanswers
    exact run_of_sameButMode hopen (List.forall₂_take n hab) hanswers.1
  · simp only [Tiers.resolve_eq_rateOf hcode, Tiers.convert_eq_rateOf hcode]
    rcases (hspeaks.believed hopen).rateOf with h | ⟨e, rate, h⟩
    · rw [h]
      exact ⟨rfl, fun _ _ ↦ rfl, .inl ⟨rfl, fun _ _ ↦ rfl⟩⟩
    · rw [h.strict, h.nonStrict]
      refine ⟨rfl, fun _ _ ↦ rfl, .inr ?_⟩
      obtain ⟨cause, hlive, hreason⟩ := h.failure
      exact ⟨cause, e, rate, hlive, hreason, rfl, rfl, fun _ _ ↦ ⟨rfl, rfl⟩⟩

section Won

theorem deadEndTiers_speaksOf : deadEndTiers.SpeaksOf (midnight 20) won where
  first := wonTiers_speaksOf.first
  cache := wonTiers_speaksOf.cache
  store := wonTiers_speaksOf.store
  source r h := by
    have hw : (LiveSource.fetch deadEndTiers.source (midnight 20) won).1 =
        .error (.unconfigured won) := rfl
    exact absurd (hw.symm.trans h) (by simp)

def openSession : Session :=
  start {} (midnight 9) (.table ∅) (.table ∅)
    [.canned "bank" (Table.insert ∅ won (wonRecord "bank" 350 (midnight 9)))]

def modeSteps (mode mode' : Mode) : List Step :=
  [.resolve mode "KRW", .switchCache .total, .clearFirst, .convert mode' .toUsd .one "krw"]

theorem openSession_answers :
    openSession.Along SourceAnswers (modeSteps .strict .nonStrict) := by
  refine ⟨?_, ?_, ?_, ?_, trivial⟩
  · rintro _ _ ⟨⟩ -
    exact ⟨wonRecord "bank" 350 (midnight 9), rfl⟩
  · exact fun _ _ hq ↦ nomatch hq
  · exact fun _ _ hq ↦ nomatch hq
  · rintro _ _ ⟨⟩ -
    exact ⟨wonRecord "bank" 350 (midnight 9), rfl⟩

theorem modes_agree_won :
    openSession.policy.Unrestricted ∧
      List.Forall₂ Step.SameButMode (modeSteps .strict .nonStrict)
        (modeSteps .nonStrict .strict) ∧
      openSession.Along SourceAnswers (modeSteps .strict .nonStrict) ∧
      openSession.run (modeSteps .strict .nonStrict) =
        openSession.run (modeSteps .nonStrict .strict) ∧
      CurrencyCode.parse "KRW" = .ok won ∧ Policy.authority? {} won = none ∧
      deadEndTiers.SpeaksOf (midnight 20) won ∧
      (deadEndTiers.resolve {} (midnight 20) .strict "KRW").1 = .error (.stale won (midnight 8)) ∧
      (deadEndTiers.resolve {} (midnight 20) .strict "KRW").2 =
        (deadEndTiers.resolve {} (midnight 20) .nonStrict "KRW").2 := by
  have hopen : openSession.policy.Unrestricted := fun c ↦ Table.get?_empty c
  have hsteps : List.Forall₂ Step.SameButMode (modeSteps .strict .nonStrict)
      (modeSteps .nonStrict .strict) :=
    .cons (.resolve ..) (.cons (.refl _) (.cons (.refl _) (.cons (.convert ..) .nil)))
  have hcode : CurrencyCode.parse "KRW" = .ok won := rfl
  have hwon : Policy.authority? {} won = none := rfl
  obtain ⟨hruns, hone⟩ := Session.modes_agree openSession (modeSteps .strict .nonStrict)
    (modeSteps .nonStrict .strict) deadEndTiers {} (midnight 20) won "KRW"
  exact ⟨hopen, hsteps, openSession_answers, hruns hopen hsteps openSession_answers 4, hcode, hwon,
    deadEndTiers_speaksOf, rfl, (hone hcode hwon deadEndTiers_speaksOf).1⟩

def wealth : Decimal := { Decimal.one with size := 0xffffffffffffffffffffffff, size_lt := by omega }

/-- The currency is unrestricted and the source fails. The strict conversion is refused for the
stored record's age, and the other one is not answered either. -/
theorem deadEndTiers_overflow :
    CurrencyCode.parse "KRW" = .ok won ∧ Policy.authority? {} won = none ∧
      deadEndTiers.SpeaksOf (midnight 20) won ∧
      (deadEndTiers.convert {} (midnight 20) .strict .fromUsd wealth "KRW").1 =
        .error (.stale won (midnight 8)) ∧
      (deadEndTiers.convert {} (midnight 20) .nonStrict .fromUsd wealth "KRW").1 =
        .error (.overflow wealth won) :=
  ⟨rfl, rfl, deadEndTiers_speaksOf, rfl, rfl⟩

end Won

end Session

end TieredRates
