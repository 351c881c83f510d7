import TieredRates.Proofs.Calendar.Instant
import TieredRates.Proofs.Resolution.Strict
import TieredRates.Proofs.Session.Answer
import TieredRates.Proofs.Session.Providers

namespace TieredRates

/-- The step puts an entry of its own into the first tier. -/
def Step.WritesFirst : Step → Prop
  | .putFirst .. => True
  | _ => False

namespace Tiers

variable {t : ServiceTiers} {p : Policy} {now : Instant} {mode : Mode} {c : CurrencyCode}
variable {o : Origin} {r : RateRecord}

theorem since_le_of_verdict (hw : 0 ≤ p.syncInterval)
    (hs : t.source.inner.Every Provider.Stamps) (ho : o ≠ .first)
    (h : t.verdict p now mode c = .found o r) : now.since r.capturedAt ≤ p.syncInterval := by
  have hr := candidate?_of_verdict h
  cases o with
  | first => exact absurd rfl ho
  | cache =>
    obtain ⟨-, -, hfresh⟩ := candidate?_cache_eq_some_iff.1 hr
    exact hfresh.since_le
  | store =>
    obtain ⟨-, -, hfresh⟩ := candidate?_store_eq_some_iff.1 hr
    exact hfresh.since_le
  | source =>
    rw [hs.answer_capturedAt (answer_of_verdict h), Instant.since_self]
    exact hw

theorem rateOf_first (hw : 0 ≤ p.syncInterval) (hs : t.source.inner.Every Provider.Stamps) :
    (t.rateOf p now mode c).2.first = t.first ∨ ∃ r, now.since r.capturedAt ≤ p.syncInterval ∧
      (t.rateOf p now mode c).2.first = FirstTier.cache t.first r now := by
  by_cases hc : c = .usd
  · rw [hc, rateOf_usd]
    exact .inl rfl
  rw [rateOf_eq hc, after_first]
  split
  · next r hv => exact .inr ⟨r, since_le_of_verdict hw hs (by decide) hv, rfl⟩
  · next r hv => exact .inr ⟨r, since_le_of_verdict hw hs (by decide) hv, rfl⟩
  · next r hv => exact .inr ⟨r, since_le_of_verdict hw hs (by decide) hv, rfl⟩
  · exact .inl rfl

theorem record_first (t : ServiceTiers) (now : Instant) (code : String) (rate : Decimal)
    (provider : String) :
    (t.record now code rate provider).2.first = t.first ∨ ∃ r, r.capturedAt = now ∧
      (t.record now code rate provider).2.first = FirstTier.cache t.first r now := by
  rcases t.record_cases now code rate provider with ⟨e, h⟩ | ⟨r, e, -, h⟩ | ⟨r, hr, -, h⟩
  · rw [h]
    exact .inl rfl
  · rw [h]
    exact .inl rfl
  · rw [h]
    exact .inr ⟨r, hr, rfl⟩

end Tiers

namespace Session

variable {s : Session} {a : Step} {as : List Step} {c : CurrencyCode} {e : Cached}

theorem step_first (hw : 0 ≤ s.policy.syncInterval)
    (hs : s.tiers.source.inner.Every Provider.Stamps) (ha : ¬ a.WritesFirst)
    (he : (s.step a).2.tiers.first.get? c = some e) :
    s.tiers.first.get? c = some e ∨
      e.cachedAt = s.now ∧ s.now.since e.record.capturedAt ≤ s.policy.syncInterval := by
  -- whatever the way a record comes in, it overwrites the entry of its own currency only
  have hnew {r : RateRecord} (hr : s.now.since r.capturedAt ≤ s.policy.syncInterval)
      (he : (FirstTier.cache s.tiers.first r s.now).get? c = some e) :
      s.tiers.first.get? c = some e ∨
        e.cachedAt = s.now ∧ s.now.since e.record.capturedAt ≤ s.policy.syncInterval := by
    rw [FirstTier.get?_cache] at he
    split at he
    · obtain rfl := Option.some.inj he
      exact .inr ⟨rfl, hr⟩
    · exact .inl he
  cases hq : a.question? with
  | some q =>
    rw [step_tiers_of_question hq] at he
    rcases Tiers.rateOf_first (t := s.tiers) hw hs with h | ⟨r, hr, h⟩
    · exact .inl (h ▸ he)
    · exact hnew hr (h ▸ he)
  | none =>
    cases a with
    | resolve | convert | list | request =>
      rcases step_tiers_of_none hq trivial with ht | ht
      · exact .inl (ht ▸ he)
      · rw [ht] at he
        exact .inl he
    | record code rate provider =>
      rcases s.tiers.record_first s.now code rate provider with h | ⟨r, hr, h⟩
      · exact .inl (h ▸ he)
      · refine hnew ?_ (h ▸ he)
        rw [hr, Instant.since_self]
        exact hw
    | check tier mode c time => cases tier <;> exact .inl he
    | putFirst r cachedAt => exact (ha trivial).elim
    | clearFirst => exact absurd he (by simp [step, proceed])
    | _ => exact .inl he

structure Young (s : Session) : Prop where
  window : 0 ≤ s.policy.syncInterval
  source : s.tiers.source.inner.Every Provider.Stamps
  entry : ∀ c e, s.tiers.first.get? c = some e →
    e.cachedAt.since e.record.capturedAt ≤ s.policy.syncInterval

structure Plain (s : Session) : Prop where
  clock : ¬ s.now.IsLeap
  entry : ∀ c e, s.tiers.first.get? c = some e → ¬ e.cachedAt.IsLeap

theorem Young.step (h : s.Young) (ha : ¬ a.WritesFirst) : (s.step a).2.Young where
  window := by
    rw [step_policy]
    exact h.window
  source := step_every Provider.stable_stamps h.source a
  entry c e he := by
    rw [step_policy]
    rcases step_first h.window h.source ha he with he | ⟨hnow, hr⟩
    · exact h.entry c e he
    · rw [hnow]
      exact hr

theorem Young.plain_step (h : s.Young) (hp : s.Plain) (ha : ¬ a.WritesFirst) :
    (s.step a).2.Plain where
  clock := by
    rw [step_now]
    split
    · exact Instant.not_isLeap_plus hp.clock _
    · exact hp.clock
  entry c e he := by
    rcases step_first h.window h.source ha he with he | ⟨hnow, -⟩
    · exact hp.entry c e he
    · rw [hnow]
      exact hp.clock

theorem Young.run (h : s.Young) (has : ∀ a ∈ as, ¬ a.WritesFirst) : (s.run as).2.Young :=
  run_invariant (fun _ _ h ha ↦ h.step ha) (along_of_forall has) h

theorem Young.plain_run (h : s.Young) (hp : s.Plain) (has : ∀ a ∈ as, ¬ a.WritesFirst) :
    (s.run as).2.Plain := by
  have hboth : (s.run as).2.Young ∧ (s.run as).2.Plain := by
    refine run_invariant (I := fun s ↦ s.Young ∧ s.Plain) ?_ (along_of_forall has) ⟨h, hp⟩
    intro s a h ha
    exact ⟨h.1.step ha, h.1.plain_step h.2 ha⟩
  exact hboth.2

theorem Young.le_capturedAt (h : s.Young) (hp : s.Plain) (hw : 0 ≤ s.policy.l1Window) {mode : Mode}
    {o : Origin} {r : RateRecord}
    (hv : s.tiers.verdict s.policy s.now mode c = .found o r) :
    s.now.toNanos - (s.policy.syncInterval + s.policy.l1Window) ≤ r.capturedAt.toNanos := by
  -- only the first tier goes by its own clock; elsewhere the record itself is young
  by_cases ho : o = .first
  · subst ho
    have hr := Tiers.candidate?_of_verdict hv
    obtain ⟨e, he, rfl, -, hwithin⟩ := Tiers.candidate?_first_eq_some_iff.1 hr
    have hcached : s.now.toNanos - e.cachedAt.toNanos ≤ s.policy.l1Window :=
      Int.le_trans (Instant.toNanos_sub_le_since hp.clock) hwithin
    have hcaptured : e.cachedAt.toNanos - e.record.capturedAt.toNanos ≤ s.policy.syncInterval :=
      Int.le_trans (Instant.toNanos_sub_le_since (hp.entry c e he)) (h.entry c e he)
    omega
  · have hyoung : s.now.toNanos - r.capturedAt.toNanos ≤ s.policy.syncInterval :=
      Int.le_trans (Instant.toNanos_sub_le_since hp.clock)
        (Tiers.since_le_of_verdict h.window h.source ho hv)
    omega

/-- Records come into the first tier while they are young. So the record of an answer is not older
than both windows together, a leap second taken as the second after it. -/
theorem run_staleness (hfirst : s.tiers.first = ∅) (hsync : 0 ≤ s.policy.syncInterval)
    (hl1 : 0 ≤ s.policy.l1Window) (hsource : s.tiers.source.inner.Every Provider.Stamps)
    (has : ∀ a ∈ as, ¬ a.WritesFirst) :
    (∀ c e, (s.run as).2.tiers.first.get? c = some e →
      e.cachedAt.since e.record.capturedAt ≤ s.policy.syncInterval) ∧
    (¬ s.now.IsLeap → ∀ mode code c rate, CurrencyCode.parse code = .ok c → c ≠ .usd →
      (mode = .strict ∨
        ∀ e, (s.run as).2.tiers.verdict s.policy (s.run as).2.now mode c ≠ .failed e) →
      ((s.run as).2.step (.resolve mode code)).1 = .ok (.amount rate) →
      ∃ o r, (s.run as).2.tiers.verdict s.policy (s.run as).2.now mode c = .found o r ∧
        r.rate = rate ∧
        (s.run as).2.now.toNanos - (s.policy.syncInterval + s.policy.l1Window) ≤
          r.capturedAt.toNanos ∧
        (¬ r.capturedAt.IsLeap →
          (s.run as).2.now.plus (-(s.policy.syncInterval + s.policy.l1Window)) ≤
            r.capturedAt)) := by
  have hpolicy := run_policy s as
  have hstart : s.Young := ⟨hsync, hsource, fun c e he ↦ by simp [hfirst] at he⟩
  have hyoung := hstart.run has
  constructor
  · exact hpolicy ▸ hyoung.entry
  intro hnow mode code c rate hcode hc hm hrate
  have hplain := hstart.plain_run ⟨hnow, fun c e he ↦ by simp [hfirst] at he⟩ has
  have hanswer := step_resolve_eq_ok hcode hrate
  rw [hpolicy] at hanswer
  obtain ⟨o, r, hv, hr⟩ := (Tiers.rateOf_eq_ok_iff hc hm).1 hanswer
  have hle := hyoung.le_capturedAt hplain (hpolicy ▸ hl1) (hpolicy ▸ hv)
  rw [hpolicy] at hle
  refine ⟨o, r, hv, hr.symm, hle, fun hleap ↦ ?_⟩
  exact Instant.plus_neg_le (Int.add_nonneg hsync hl1) hplain.clock hleap hle

def bankSession : Session :=
  start bankPolicy (midnight 9) (.table ∅) (.table ∅)
    [.fixed "bank" (Table.insert ∅ won (wonRecord "bank" 350 (midnight 9)).rate)]

def bankSteps : List Step := [.resolve .strict "KRW", .advance (Span.ofSeconds 300)]

theorem run_staleness_won :
    bankSession.tiers.first = ∅ ∧ 0 ≤ bankPolicy.syncInterval ∧ 0 ≤ bankPolicy.l1Window ∧
      bankSession.tiers.source.inner.Every Provider.Stamps ∧
      (∀ a ∈ bankSteps, ¬ a.WritesFirst) ∧ ¬ bankSession.now.IsLeap ∧
      ∃ o r, (bankSession.run bankSteps).2.tiers.verdict bankPolicy
          (bankSession.run bankSteps).2.now .strict won = .found o r ∧
        r.rate = (wonRecord "bank" 350 (midnight 9)).rate ∧
        (bankSession.run bankSteps).2.now.toNanos - Span.ofSeconds 86700 ≤
          r.capturedAt.toNanos := by
  have hfirst : bankSession.tiers.first = ∅ := rfl
  have hsource : bankSession.tiers.source.inner.Every Provider.Stamps := by
    intro p hp
    obtain rfl := List.mem_singleton.1 hp
    trivial
  have has : ∀ a ∈ bankSteps, ¬ a.WritesFirst := by simp [bankSteps, Step.WritesFirst]
  have hclock : ¬ bankSession.now.IsLeap := by decide
  have hanswer : ((bankSession.run bankSteps).2.step (.resolve .strict "KRW")).1 =
      .ok (.amount (wonRecord "bank" 350 (midnight 9)).rate) := rfl
  refine ⟨hfirst, by decide, by decide, hsource, has, hclock, ?_⟩
  obtain ⟨o, r, hv, hr, hle, -⟩ := (run_staleness hfirst (by decide) (by decide) hsource has).2
    hclock .strict "KRW" won _ rfl (by decide) (.inl rfl) hanswer
  exact ⟨o, r, hv, hr, hle⟩

def leapSession : Session :=
  start { l1Window := Span.ofMillis 10800000, syncInterval := Span.ofMillis 77340000 }
    ((midnight 9).plus (Span.ofMillis 36000000)) (.table ∅) (.table ∅) []

def leapRecord : RateRecord :=
  wonRecord "bank" 300 { date := (midnight 8).date, second := 45059, nano := 1000000000 }

def leapSteps : List Step :=
  [.putStore leapRecord, .resolve .strict "KRW", .advance (Span.ofMillis 10800000)]

/-- A leap second counts in a length of time only when the later time of day is behind it. So on the
next morning a record of one is taken for a second younger than it is, and past 12:30 it answers
although it is older than both windows. -/
theorem leapSession_answer :
    leapSession.tiers.first = ∅ ∧ 0 ≤ leapSession.policy.syncInterval ∧
      0 ≤ leapSession.policy.l1Window ∧
      leapSession.tiers.source.inner.Every Provider.Stamps ∧
      (∀ a ∈ leapSteps, ¬ a.WritesFirst) ∧
      leapSession.Along (fun s a ↦ s.now ≤ (s.step a).2.now) leapSteps ∧ won ≠ .usd ∧
      ((leapSession.run leapSteps).2.step (.resolve .strict "KRW")).1 =
        .ok (.amount leapRecord.rate) ∧
      (leapSession.run leapSteps).2.tiers.verdict leapSession.policy
        (leapSession.run leapSteps).2.now .strict won = .found .first leapRecord ∧
      ¬ (leapSession.run leapSteps).2.now.plus
          (-(leapSession.policy.syncInterval + leapSession.policy.l1Window)) ≤
        leapRecord.capturedAt ∧
      leapSession.policy.syncInterval + leapSession.policy.l1Window <
        (leapSession.run leapSteps).2.now.since leapRecord.capturedAt := by
  refine ⟨rfl, by decide, by decide, ?_, ?_, ?_, by decide, ?_, ?_, ?_, ?_⟩
  · intro p hp
    exact absurd hp (by simp [leapSession, start])
  · simp [leapSteps, Step.WritesFirst]
  · exact ⟨by decide +kernel, by decide +kernel, by decide +kernel, trivial⟩
  · rfl
  · decide +kernel
  · decide +kernel
  · decide +kernel

end Session

end TieredRates
