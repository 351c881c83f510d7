import TieredRates.Proofs.Session.Recording
import TieredRates.Proofs.Session.Staleness

namespace TieredRates

/-- Whatever answers about the currency in the first mode is accepted in the other one too. -/
def Policy.Covers (p : Policy) (c : CurrencyCode) (m mode : Mode) : Prop :=
  m = .strict ∨ p.authority? c = none ∨ mode = .nonStrict

theorem Policy.Covers.accepts {p : Policy} {m mode : Mode} {r : RateRecord}
    (h : p.Covers r.target m mode) (hr : p.Accepts m r) : p.Accepts mode r := by
  rcases h with rfl | hopen | rfl
  · exact fun _ ↦ accepts_strict_iff.1 hr
  · exact accepts_of_authority?_none hopen rfl mode
  · exact p.accepts_nonStrict r

/-- The step drops the currency's entry of the first tier, or puts a given record there. -/
def Step.Replaces (c : CurrencyCode) : Step → Prop
  | .putFirst r _ => r.target = c
  | .record code .. => CurrencyCode.parse? code = some c
  | .clearFirst => True
  | _ => False

/-- The step does not replace the entry that has answered in mode `m`, and asks about its currency
only in modes that accept it. -/
def Step.Spares (p : Policy) (c : CurrencyCode) (m : Mode) (a : Step) : Prop :=
  ¬ a.Replaces c ∧ ∀ mode, a.question? = some (mode, c) → p.Covers c m mode

namespace Tiers

variable {t : ServiceTiers} {p : Policy} {now : Instant} {mode : Mode} {c : CurrencyCode}

theorem verdict_ne_first {e : Cached} (he : t.first.get? c = some e)
    (hw : ¬ e.Within p.l1Window now) (r : RateRecord) :
    t.verdict p now mode c ≠ .found .first r := by
  intro hv
  obtain ⟨e', he', -, -, hw'⟩ := candidate?_first_eq_some_iff.1 (candidate?_of_verdict hv)
  obtain rfl : e = e' := Option.some.inj (he.symm.trans he')
  exact hw hw'

end Tiers

namespace Session

variable {s : Session} {a : Step} {as : List Step} {m mode : Mode} {c : CurrencyCode} {e : Cached}

theorem not_isLeap_run (h : ¬ s.now.IsLeap) (as : List Step) : ¬ (s.run as).2.now.IsLeap :=
  fun hleap ↦ h (sharesLeap_run (.refl s.now) as hleap).1

theorem step_first_of_not_replaces (hk : s.tiers.Keyed) (ha : ¬ a.Replaces c)
    (hother : ∀ mode, a.question? ≠ some (mode, c)) :
    (s.step a).2.tiers.first.get? c = s.tiers.first.get? c := by
  cases hq : a.question? with
  | some q =>
    rw [step_tiers_of_question hq]
    have hsame : Tiers.SameFor s.now c s.tiers (s.tiers.rateOf s.policy s.now q.1 q.2).2 :=
      .rateOf hk fun hc ↦ hother q.1 (hc ▸ hq)
    exact hsame.first
  | none =>
    cases a with
    | resolve | convert | list | request =>
      rcases step_tiers_of_none hq trivial with ht | ht
      · rw [ht]
      · rw [ht]
        rfl
    | record code rate provider =>
      have hsame : Tiers.SameFor s.now c s.tiers (s.tiers.record s.now code rate provider).2 :=
        .record ha
      exact hsame.first
    | check tier mode d time => cases tier <;> rfl
    | putFirst r cachedAt =>
      exact (FirstTier.get?_cache _ r _ c).trans (if_neg (Ne.symm ha))
    | clearFirst => exact absurd trivial ha
    | _ => rfl

/-- The first tier has the entry, and it answers in mode `m`. -/
structure Keeping (s : Session) (p : Policy) (c : CurrencyCode) (m : Mode) (e : Cached) : Prop where
  policy : s.policy = p
  keyed : s.tiers.Keyed
  entry : s.tiers.first.get? c = some e
  accepts : p.Accepts m e.record

variable {p : Policy}

theorem Keeping.verdict (h : s.Keeping p c m e) (hm : p.Covers c m mode)
    (hw : e.Within p.l1Window s.now) :
    s.tiers.verdict s.policy s.now mode c = .found .first e.record := by
  rw [h.policy]
  have ht := h.keyed.first c e h.entry
  refine Tiers.verdict_of_first h.entry ?_ hw
  exact Policy.Covers.accepts (ht.symm ▸ hm) h.accepts

theorem Keeping.step (h : s.Keeping p c m e) (hc : c ≠ .usd) (ha : a.Spares p c m)
    (hw : e.Within p.l1Window s.now) : (s.step a).2.Keeping p c m e where
  policy := (s.step_policy a).trans h.policy
  keyed := step_keyed h.keyed a
  accepts := h.accepts
  entry := by
    by_cases hq : ∃ mode, a.question? = some (mode, c)
    · obtain ⟨mode, hq⟩ := hq
      rw [step_tiers_of_question hq, Tiers.rateOf_eq hc, h.verdict (ha.2 mode hq) hw]
      exact h.entry
    · rw [step_first_of_not_replaces h.keyed ha.1 fun mode hm ↦ hq ⟨mode, hm⟩]
      exact h.entry

theorem Keeping.run (h : s.Keeping p c m e) (hc : c ≠ .usd) (has : ∀ a ∈ as, a.Spares p c m)
    (hw : s.Along (fun σ _ ↦ e.Within p.l1Window σ.now) as) :
    (s.run as).2.Keeping p c m e :=
  run_invariant (I := fun σ ↦ σ.Keeping p c m e) (fun _ _ h ha ↦ h.step hc ha.1 ha.2)
    ((along_of_forall has).and hw) h

theorem along_within {w : Int} (hs : ¬ s.now.IsLeap) (he : ¬ e.cachedAt.IsLeap)
    (hclock : s.Along (fun s a ↦ s.now ≤ (s.step a).2.now) as)
    (hw : e.Within w (s.run as).2.now) : s.Along (fun σ _ ↦ e.Within w σ.now) as := by
  refine along_of_split fun before a after hsplit ↦ ?_
  rw [hsplit] at hclock hw
  have hrest := now_le_run (along_append_iff.1 hclock).2
  rw [← run_append] at hrest
  exact Int.le_trans
    (Instant.since_le_since (not_isLeap_run hs _) (not_isLeap_run hs _) he hrest) hw

theorem Keeping.step_resolve (h : s.Keeping p c m e) (hc : c ≠ .usd) (hm : p.Covers c m mode)
    (hw : e.Within p.l1Window s.now) {spelling : String}
    (hspelling : CurrencyCode.parse spelling = .ok c) :
    s.step (.resolve mode spelling) = (.ok (.amount e.record.rate), s) := by
  rw [Session.step, Tiers.resolve_eq_rateOf hspelling, Tiers.rateOf_eq hc, h.verdict hm hw]
  rfl

/-- A rate that has answered is in the first tier, and away from leap seconds it goes on answering
until its window is over. Nothing else is asked meanwhile, and nothing changes: the entry stays as
it is, with the moment of caching, and so the window is not extended. -/
theorem run_window {code : String} {x : Decimal} (hkeyed : s.tiers.Keyed) (hc : c ≠ .usd)
    (hcode : CurrencyCode.parse code = .ok c)
    (hx : (s.step (.resolve m code)).1 = .ok (.amount x))
    (hfetch : ∀ err, s.tiers.verdict s.policy s.now m c ≠ .failed err) :
    ∃ e, (s.step (.resolve m code)).2.tiers.first.get? c = some e ∧ e.record.rate = x ∧
      (¬ s.now.IsLeap → ¬ e.cachedAt.IsLeap → ∀ as, (∀ a ∈ as, a.Spares s.policy c m) →
        s.Along (fun s a ↦ s.now ≤ (s.step a).2.now) (.resolve m code :: as) →
        (s.run (.resolve m code :: as)).2.now.since e.cachedAt ≤ s.policy.l1Window →
        (s.run (.resolve m code :: as)).2.tiers.first.get? c = some e ∧
        ∀ mode spelling, s.policy.Covers c m mode → CurrencyCode.parse spelling = .ok c →
          (s.run (.resolve m code :: as)).2.step (.resolve mode spelling) =
            (.ok (.amount x), (s.run (.resolve m code :: as)).2)) ∧
      ∀ as, (s.run (.resolve m code :: as)).2.tiers.first.get? c = some e →
        s.policy.l1Window < (s.run (.resolve m code :: as)).2.now.since e.cachedAt →
        ∀ mode r, (s.run (.resolve m code :: as)).2.tiers.verdict s.policy
          (s.run (.resolve m code :: as)).2.now mode c ≠ .found .first r := by
  have hq : (Step.resolve m code).question? = some (m, c) := by
    simp [Step.question?, CurrencyCode.parse_eq_ok_iff.1 hcode]
  have hrate := step_resolve_eq_ok hcode hx
  obtain ⟨o, r, hv, hr⟩ := (Tiers.rateOf_eq_ok_iff hc (.inr hfetch)).1 hrate
  obtain ⟨e, he, hrecord⟩ := Tiers.first_rateOf hc hv (hkeyed.target_of_verdict hv)
  rw [← step_tiers_of_question hq] at he
  refine ⟨e, he, hrecord ▸ hr.symm, ?_, ?_⟩
  · intro hs hleap as has hclock hw
    have hkeeping : (s.step (.resolve m code)).2.Keeping s.policy c m e := {
      policy := s.step_policy _
      keyed := step_keyed hkeyed _
      entry := he
      accepts := hrecord ▸ Tiers.accepts_of_candidate? (Tiers.candidate?_of_verdict hv) }
    have hs' : ¬ (s.step (.resolve m code)).2.now.IsLeap := hs
    have hend := hkeeping.run hc has (along_within hs' hleap hclock.2 hw)
    refine ⟨hend.entry, fun mode spelling hm hspelling ↦ ?_⟩
    have hstep := hend.step_resolve hc hm hw hspelling
    rw [hrecord, ← hr] at hstep
    exact hstep
  · intro as hentry hw mode r
    exact Tiers.verdict_ne_first hentry (Int.not_le.2 hw) r

def windowSteps : List Step :=
  [.putStore (wonRecord "bank" 400 (midnight 9)), .record "EUR" .one "desk", .switchStore .total,
    .convert .nonStrict .toUsd .one "KRW", .advance (Span.ofSeconds 300)]

theorem bankSession_keyed : bankSession.tiers.Keyed where
  first _ _ h := nomatch h
  cache _ _ h := nomatch h
  store _ _ h := nomatch h
  source p hp := by
    obtain rfl := List.mem_singleton.1 hp
    trivial

theorem run_window_won :
    bankSession.tiers.Keyed ∧ won ≠ .usd ∧
      (bankSession.step (.resolve .strict "KRW")).1 =
        .ok (.amount (wonRecord "bank" 350 (midnight 9)).rate) ∧
      (∀ err, bankSession.tiers.verdict bankPolicy (midnight 9) .strict won ≠ .failed err) ∧
      (∀ a ∈ windowSteps, a.Spares bankPolicy won .strict) ∧
      bankSession.Along (fun s a ↦ s.now ≤ (s.step a).2.now)
        (.resolve .strict "KRW" :: windowSteps) ∧
      (bankSession.run (.resolve .strict "KRW" :: windowSteps)).2.step (.resolve .nonStrict "krw") =
        (.ok (.amount (wonRecord "bank" 350 (midnight 9)).rate),
          (bankSession.run (.resolve .strict "KRW" :: windowSteps)).2) := by
  have hanswer : (bankSession.step (.resolve .strict "KRW")).1 =
      .ok (.amount (wonRecord "bank" 350 (midnight 9)).rate) := rfl
  have hv : bankSession.tiers.verdict bankPolicy (midnight 9) .strict won =
      .found .source (wonRecord "bank" 350 (midnight 9)) := by decide +kernel
  have hfetch err :
      bankSession.tiers.verdict bankPolicy (midnight 9) .strict won ≠ .failed err := by
    simp [hv]
  have has : ∀ a ∈ windowSteps, a.Spares bankPolicy won .strict := by
    have heuro : CurrencyCode.parse? "EUR" ≠ some won := by decide +kernel
    have hreplaces : ∀ a ∈ windowSteps, ¬ a.Replaces won := by
      simp [windowSteps, Step.Replaces, heuro]
    exact fun a ha ↦ ⟨hreplaces a ha, fun _ _ ↦ .inl rfl⟩
  have hclock : bankSession.Along (fun s a ↦ s.now ≤ (s.step a).2.now)
      (.resolve .strict "KRW" :: windowSteps) := by
    refine ⟨?_, ?_, ?_, ?_, ?_, ?_, trivial⟩
    all_goals decide +kernel
  refine ⟨bankSession_keyed, by decide, hanswer, hfetch, has, hclock, ?_⟩
  obtain ⟨e, he, -, hwindow, -⟩ :=
    run_window bankSession_keyed (by decide) rfl hanswer hfetch
  have hentry : (bankSession.step (.resolve .strict "KRW")).2.tiers.first.get? won =
      some ⟨wonRecord "bank" 350 (midnight 9), midnight 9⟩ := by decide +kernel
  obtain rfl := Option.some.inj (hentry.symm.trans he)
  exact (hwindow (by decide) (by decide) windowSteps has hclock (by decide +kernel)).2
    .nonStrict "krw" (.inl rfl) rfl

def lateDesk : Session :=
  start { l1Window := Span.ofMillis 41340000 }
    ((midnight 9).plus (Span.ofMillis 86399000)) (.table ∅) (.table ∅) []

def noonSession : Session :=
  (lateDesk.step (.putFirst (wonRecord "desk" 300 (midnight 9))
    (some { leapRecord.capturedAt with date := (midnight 9).date }))).2

def noonSteps : List Step :=
  [.putStore (wonRecord "desk" 400 (midnight 9)), .advance (Span.ofMillis 500),
    .resolve .strict "KRW", .advance (Span.ofMillis 500)]

theorem lateDesk_keyed : lateDesk.tiers.Keyed where
  first _ _ h := nomatch h
  cache _ _ h := nomatch h
  store _ _ h := nomatch h
  source _ h := nomatch h

/-- An entry from a leap second counts that second until midnight and not after it, so its window
may be over half a second before midnight and not yet over at midnight. -/
theorem noonSession_answer :
    noonSession.tiers.Keyed ∧ 0 ≤ noonSession.policy.l1Window ∧ won ≠ .usd ∧
      (noonSession.step (.resolve .strict "KRW")).1 =
        .ok (.amount (wonRecord "desk" 300 (midnight 9)).rate) ∧
      noonSession.tiers.verdict noonSession.policy noonSession.now .strict won =
        .found .first (wonRecord "desk" 300 (midnight 9)) ∧
      (∀ a ∈ noonSteps, a.Spares noonSession.policy won .strict) ∧
      noonSession.Along (fun s a ↦ s.now ≤ (s.step a).2.now) (.resolve .strict "KRW" :: noonSteps) ∧
      ∃ e, (noonSession.step (.resolve .strict "KRW")).2.tiers.first.get? won = some e ∧
        (noonSession.run (.resolve .strict "KRW" :: noonSteps)).2.now.since e.cachedAt ≤
          noonSession.policy.l1Window ∧
        ((noonSession.run (.resolve .strict "KRW" :: noonSteps)).2.step
          (.resolve .strict "KRW")).1 = .ok (.amount (wonRecord "desk" 400 (midnight 9)).rate) := by
  refine ⟨step_keyed lateDesk_keyed _, by decide, by decide, rfl, by decide +kernel, ?_, ?_, ?_⟩
  · have hreplaces : ∀ a ∈ noonSteps, ¬ a.Replaces won := by simp [noonSteps, Step.Replaces]
    exact fun a ha ↦ ⟨hreplaces a ha, fun _ _ ↦ .inl rfl⟩
  · refine ⟨?_, ?_, ?_, ?_, ?_, trivial⟩
    all_goals decide +kernel
  · exact ⟨_, rfl, by decide +kernel, rfl⟩

end Session

end TieredRates
