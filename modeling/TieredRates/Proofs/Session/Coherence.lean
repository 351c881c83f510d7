import TieredRates.Proofs.Calendar.Instant
import TieredRates.Proofs.Resolution.Coherence
import TieredRates.Proofs.Session.Answer
import TieredRates.Proofs.Session.Provenance

namespace TieredRates

/-- The step puts something into a tier past the resolver, or switches a tier off or on. -/
def Step.Disturbs : Step → Prop
  | .putFirst .. | .putCache _ | .putStore _ | .writeRow .. | .switchCache _ | .switchStore _ => True
  | _ => False

theorem Step.not_writesStore_of_not_disturbs {a : Step} (h : ¬ a.Disturbs) : ¬ a.WritesStore := by
  cases a <;> first | exact h | exact id

namespace Session

structure Empty (s : Session) : Prop where
  first : s.tiers.first = ∅
  cache : s.tiers.cache.inner = .table ∅ ∨
    ∃ lifetime, s.tiers.cache.inner = .timed (.empty lifetime)
  store : s.tiers.store.inner = .table ∅ ∨ s.tiers.store.inner = .rows ⟨∅⟩
  cacheUp : s.tiers.cache.down = {}
  storeUp : s.tiers.store.down = {}

/-- The clock and the records that the source gives are of the years 0 to 9999. -/
def InPlainYears (s : Session) : Prop :=
  s.now.HasPlainYear ∧ ∀ c r, s.tiers.live s.now c = .ok r → r.capturedAt.HasPlainYear

def Keeps (s : Session) : Prop :=
  ∀ r, (r.capturedAt = s.now ∨ ∃ c, s.tiers.live s.now c = .ok r) → s.tiers.store.inner.Keeps r

variable {s : Session} {a : Step} {as : List Step} {c : CurrencyCode} {r : RateRecord}

theorem Empty.coherent (h : s.Empty) : s.tiers.Coherent s.policy := by
  have hcache : s.tiers.cache.inner.InMemory ∧ ∀ c, s.tiers.cache.inner.held? c = none := by
    rcases h.cache with hc | ⟨lifetime, hc⟩
    · rw [hc]
      exact ⟨trivial, fun c ↦ rfl⟩
    · rw [hc]
      exact ⟨trivial, fun c ↦ rfl⟩
  have hstore : ∀ c, s.tiers.store.inner.record? c = none := by
    intro c
    rcases h.store with hs | hs
    · rw [hs]
      rfl
    · rw [hs]
      rfl
  exact {
    inMemory := hcache.1
    cacheUp := h.cacheUp
    storeUp := h.storeUp
    target := fun c r hr ↦ by simp [hstore] at hr
    first := fun c e he ↦ by simp [h.first] at he
    cache := fun c r hr ↦ by simp [hcache.2] at hr }

theorem step_coherent (h : s.tiers.Coherent s.policy) (hk : s.Keeps) (ha : ¬ a.Disturbs) :
    (s.step a).2.tiers.Coherent s.policy := by
  cases hq : a.question? with
  | some q =>
    rw [step_tiers_of_question hq]
    exact h.rateOf fun r hr ↦ hk r (.inr ⟨q.2, hr⟩)
  | none =>
    cases a with
    | resolve | convert | list | request =>
      rcases step_tiers_of_none hq trivial with ht | ht
      · rw [ht]
        exact h
      · rw [ht]
        exact h.of_store (Monitored.inner_listStore s.tiers.store) (Monitored.down_pass _ _ _ _)
    | record code rate provider => exact h.record fun r hr ↦ hk r (.inl hr)
    | check tier mode c time =>
      cases tier with
      | first => exact h
      | cache => exact h.askCache s.now c
      | store =>
        exact h.of_store (Monitored.inner_getStore s.tiers.store c) (Monitored.down_pass _ _ _ _)
    | clearFirst => exact { h with first := fun c e he ↦ absurd he (by simp [step, proceed]) }
    | getCache c => exact h.askCache s.now c
    | removeCache c =>
      exact h.of_cache (Cache.inMemory_remove.2 h.inMemory) rfl fun d r ↦ Cache.held?_of_remove
    | plantCache key value =>
      refine h.of_cache (Cache.inMemory_plant.2 h.inMemory) rfl fun d r hr ↦ ?_
      rwa [← Cache.held?_plant]
    | getStore c =>
      exact h.of_store (Monitored.inner_getStore s.tiers.store c) (Monitored.down_pass _ _ _ _)
    | listStore =>
      exact h.of_store (Monitored.inner_listStore s.tiers.store) (Monitored.down_pass _ _ _ _)
    | switchSource | fetch | setRate | setRecord | setReply => exact h.of_source _
    | advance | getFirst | listFirst | route => exact h
    | putFirst | putCache | putStore | writeRow | switchCache | switchStore =>
      exact (ha trivial).elim

theorem InPlainYears.keeps (h : s.InPlainYears) : s.Keeps := by
  intro r hr
  cases hs : s.tiers.store.inner with
  | table t => trivial
  | rows rows =>
    rcases hr with hr | ⟨c, hr⟩
    · exact (congrArg Instant.HasPlainYear hr).mpr h.1
    · exact h.2 c r hr

theorem keeps_of_table {t : Table CurrencyCode RateRecord} (h : s.tiers.store.inner = .table t) :
    s.Keeps := by
  intro r _
  rw [h]
  trivial

theorem along_keeps (has : ∀ a ∈ as, ¬ a.Disturbs)
    (hyears : (∃ rows, s.tiers.store.inner = .rows rows) → s.Along (fun s _ ↦ s.InPlainYears) as) :
    s.Along (fun s a ↦ ¬ a.Disturbs ∧ s.Keeps) as := by
  cases hs : s.tiers.store.inner with
  | table t =>
    -- a table stays a table
    refine Along.of_invariant (I := fun s ↦ ∃ t, s.tiers.store.inner = .table t) ?_ ?_
      (along_of_forall has) ⟨t, hs⟩
    · rintro s a ⟨t, ht⟩ ha
      rcases step_store (s := s) (Step.not_writesStore_of_not_disturbs ha) with h | ⟨_, r, -, h⟩
      · exact ⟨t, h.trans ht⟩
      · rw [h, ht]
        exact ⟨_, rfl⟩
    · rintro s a ⟨t, ht⟩ ha
      exact ⟨ha, keeps_of_table ht⟩
  | rows rows =>
    refine Along.of_invariant (I := fun _ ↦ True) (fun _ _ _ _ ↦ trivial) ?_
      ((along_of_forall has).and (hyears ⟨rows, hs⟩)) trivial
    exact fun s a _ h ↦ ⟨h.1, h.2.keeps⟩

theorem run_coherent (h : s.tiers.Coherent s.policy)
    (has : s.Along (fun s a ↦ ¬ a.Disturbs ∧ s.Keeps) as) :
    (s.run as).2.tiers.Coherent s.policy := by
  have hrun : (s.run as).2.tiers.Coherent (s.run as).2.policy := by
    refine run_invariant (I := fun s ↦ s.tiers.Coherent s.policy) (fun s a h ha ↦ ?_) has h
    rw [step_policy]
    exact step_coherent h ha.2 ha.1
  rwa [run_policy] at hrun

/-- The tiers are coherent, the source gives records of the present, and the store has none of the
future. -/
structure Stamped (s : Session) : Prop where
  coherent : s.tiers.Coherent s.policy
  source : s.tiers.source.inner.Every Provider.Stamps
  past : ∀ c r, s.tiers.store.inner.record? c = some r → r.capturedAt ≤ s.now

theorem Stores.capturedAt (h : s.Stores c r a) (hs : s.tiers.source.inner.Every Provider.Stamps) :
    r.capturedAt = s.now := by
  cases h with
  | recorded _ h =>
    obtain ⟨r', hr', heq⟩ := finish_eq_ok h
    obtain rfl : r' = r := by simpa using heq
    exact Tiers.capturedAt_of_record hr'
  | live _ hv _ => exact hs.answer_capturedAt (Tiers.answer_of_verdict hv)

theorem Stamped.step_le (h : s.Stamped) (hk : s.Keeps) (ha : ¬ a.Disturbs)
    (hr : s.tiers.store.inner.record? c = some r) :
    ∃ r', (s.step a).2.tiers.store.inner.record? c = some r' ∧ r.capturedAt ≤ r'.capturedAt := by
  rcases step_store (s := s) (Step.not_writesStore_of_not_disturbs ha) with hs | ⟨_, r₀, hr₀, hs⟩
  · rw [hs]
    exact ⟨r, hr, Instant.le_refl _⟩
  · have hnow := hr₀.capturedAt h.source
    rw [hs]
    by_cases hc : c = r₀.target
    · rw [hc]
      refine ⟨_, Store.record?_put_self (hk r₀ (.inl hnow)), ?_⟩
      rw [Store.kept_capturedAt, hnow]
      exact h.past c r hr
    · exact ⟨r, (Store.record?_put_of_ne hc).trans hr, Instant.le_refl _⟩

theorem Stamped.step (h : s.Stamped) (hk : s.Keeps) (ha : ¬ a.Disturbs)
    (hclock : s.now ≤ (s.step a).2.now) : (s.step a).2.Stamped where
  coherent := by
    rw [step_policy]
    exact step_coherent h.coherent hk ha
  source := step_every Provider.stable_stamps h.source a
  past c r hr := by
    rcases step_store (s := s) (Step.not_writesStore_of_not_disturbs ha) with
      hs | ⟨_, r₀, hr₀, hs⟩
    · rw [hs] at hr
      exact Instant.le_trans (h.past c r hr) hclock
    · rw [hs] at hr
      rcases Store.record?_put hr with hr | ⟨-, rfl⟩
      · exact Instant.le_trans (h.past c r hr) hclock
      · rw [Store.kept_capturedAt, hr₀.capturedAt h.source]
        exact hclock

def Orderly (s : Session) (a : Step) : Prop :=
  ¬ a.Disturbs ∧ s.Keeps ∧ s.now ≤ (s.step a).2.now

theorem Stamped.run (h : s.Stamped) (has : s.Along Orderly as) : (s.run as).2.Stamped :=
  run_invariant (fun _ _ h ha ↦ h.step ha.2.1 ha.1 ha.2.2) has h

theorem Stamped.run_le (h : s.Stamped) (has : s.Along Orderly as)
    (hr : s.tiers.store.inner.record? c = some r) :
    ∃ r', (s.run as).2.tiers.store.inner.record? c = some r' ∧ r.capturedAt ≤ r'.capturedAt := by
  induction as generalizing s r with
  | nil => exact ⟨r, hr, Instant.le_refl _⟩
  | cons a as ih =>
    obtain ⟨ha, hk, hclock⟩ := has.1
    obtain ⟨r₁, hr₁, hle₁⟩ := h.step_le hk ha hr
    obtain ⟨r₂, hr₂, hle₂⟩ := ih (h.step hk ha hclock) has.2 hr₁
    exact ⟨r₂, hr₂, Instant.le_trans hle₁ hle₂⟩

theorem Stamped.target_of_verdict (h : s.Stamped) {mode : Mode} {o : Origin}
    (hv : s.tiers.verdict s.policy s.now mode c = .found o r) : r.target = c := by
  by_cases ho : o = .source
  · subst ho
    have hkeyed : s.tiers.source.inner.Every Provider.Keyed := fun p hp ↦ (h.source p hp).keyed
    exact hkeyed.answer_target (Tiers.answer_of_verdict hv)
  · exact (h.coherent.backed_of_verdict ho hv).1

theorem Stamped.record?_of_verdict (h : s.Stamped) (hk : s.Keeps) (ha : ¬ a.Disturbs)
    {o : Origin} (hc : c ≠ .usd) (hq : a.question? = some (.strict, c))
    (hv : s.tiers.verdict s.policy s.now .strict c = .found o r) :
    ∃ r', (s.step a).2.tiers.store.inner.record? c = some r' ∧ r'.capturedAt = r.capturedAt := by
  -- the answer is in the first tier afterwards, and there it is backed by the store
  have hcoherent := step_coherent h.coherent hk ha
  have ht : s.policy.Trusts r :=
    Policy.accepts_strict_iff.1 (Tiers.accepts_of_candidate? (Tiers.candidate?_of_verdict hv))
  obtain ⟨e, he, hr⟩ := Tiers.first_rateOf hc hv (h.target_of_verdict hv)
  rw [step_tiers_of_question hq] at hcoherent ⊢
  obtain ⟨-, hbacked⟩ := hcoherent.first c e he
  obtain ⟨r', hr', hagrees⟩ := hbacked (hr ▸ ht)
  exact ⟨r', hr', hagrees.capturedAt.trans (congrArg _ hr)⟩

theorem Stamped.capturedAt_le (h : s.Stamped) {mid : List Step} {b : Step} {o o' : Origin}
    {r' : RateRecord} (has : s.Along Orderly (a :: mid ++ [b])) (hc : c ≠ .usd)
    (hq : a.question? = some (.strict, c)) (hq' : b.question? = some (.strict, c))
    (hv : s.tiers.verdict s.policy s.now .strict c = .found o r)
    (hv' : (s.run (a :: mid)).2.tiers.verdict (s.run (a :: mid)).2.policy
      (s.run (a :: mid)).2.now .strict c = .found o' r') :
    r.capturedAt ≤ r'.capturedAt := by
  -- both answers are of the time that the store has after them, and that only rises
  obtain ⟨hrun, hb⟩ := along_append_iff.1 has
  obtain ⟨⟨ha, hk, hclock⟩, hmid⟩ := hrun
  obtain ⟨⟨hdb, hkb, -⟩, -⟩ := hb
  obtain ⟨r₁, hr₁, heq₁⟩ := h.record?_of_verdict hk ha hc hq hv
  have h₁ := h.step hk ha hclock
  obtain ⟨r₂, hr₂, hle₂⟩ := h₁.run_le hmid hr₁
  have h₂ : (s.run (a :: mid)).2.Stamped := h₁.run hmid
  obtain ⟨r₃, hr₃, hle₃⟩ := h₂.step_le hkb hdb hr₂
  obtain ⟨r₄, hr₄, heq₄⟩ := h₂.record?_of_verdict hkb hdb hc hq' hv'
  obtain rfl : r₃ = r₄ := Option.some.inj (hr₃.symm.trans hr₄)
  rw [← heq₁, ← heq₄]
  exact Instant.le_trans hle₂ hle₃

/-- From empty tiers, and with no one but the resolver to write into them, a trusted record in
either cache is the one that the store has. So, if the source gives records of the present and the
clock does not go back, the records that answer strict callers do not go back either. -/
theorem run_coherence (hempty : s.Empty) (has : ∀ a ∈ as, ¬ a.Disturbs)
    (hyears : (∃ rows, s.tiers.store.inner = .rows rows) → s.Along (fun s _ ↦ s.InPlainYears) as)
    (hclock : s.Along (fun s a ↦ s.now ≤ (s.step a).2.now) as) :
    (∀ c r, ((∃ e, (s.run as).2.tiers.first.get? c = some e ∧ e.record = r) ∨
        (s.run as).2.tiers.cache.inner.held? c = some r) →
      s.policy.TrustsFor c r →
      ∃ r', (s.run as).2.tiers.store.inner.record? c = some r' ∧ r'.Agrees r) ∧
    (s.tiers.source.inner.Every Provider.Stamps →
      ∀ before a mid b after, as = before ++ a :: mid ++ b :: after →
      ∀ c, c ≠ .usd → a.question? = some (.strict, c) → b.question? = some (.strict, c) →
      let t := (s.run before).2
      let t' := (s.run (before ++ a :: mid)).2
      (∀ o r o' r', t.tiers.verdict s.policy t.now .strict c = .found o r →
        t'.tiers.verdict s.policy t'.now .strict c = .found o' r' → r.capturedAt ≤ r'.capturedAt) ∧
      ∀ x x', (t.step a).1 = .ok (.amount x) → (t'.step b).1 = .ok (.amount x') →
        ∃ o r o' r', t.tiers.verdict s.policy t.now .strict c = .found o r ∧ a.Quotes r x ∧
          t'.tiers.verdict s.policy t'.now .strict c = .found o' r' ∧ b.Quotes r' x' ∧
          r.capturedAt ≤ r'.capturedAt) := by
  have hkeeps := along_keeps has hyears
  constructor
  · intro c r hr ht
    have hcoherent := run_coherent hempty.coherent hkeeps
    have hbacked : s.policy.Backed (s.run as).2.tiers.store.inner c r := by
      rcases hr with ⟨e, he, rfl⟩ | hr
      · exact hcoherent.first c e he
      · exact hcoherent.cache c r hr
    exact hbacked.2 (Policy.trusts_iff.2 (hbacked.1.symm ▸ ht))
  · rintro hsource before a mid b after rfl c hc hq hq' t t'
    have hstamped : s.Stamped := by
      refine ⟨hempty.coherent, hsource, fun c r hr ↦ ?_⟩
      rcases hempty.store with hs | hs
      · rw [hs] at hr
        exact absurd hr (by simp [Store.record?, RateStore.get])
      · rw [hs] at hr
        exact absurd hr (by simp [Store.record?, RateStore.get, RowStore.get])
    have horderly : s.Along Orderly (before ++ (a :: mid ++ [b]) ++ after) := by
      have hsplit : before ++ a :: mid ++ b :: after = before ++ (a :: mid ++ [b]) ++ after := by
        simp
      refine hsplit ▸ Along.of_invariant (I := fun _ ↦ True) (fun _ _ _ _ ↦ trivial) ?_
        (hkeeps.and hclock) trivial
      exact fun s a _ h ↦ ⟨h.1.1, h.1.2, h.2⟩
    obtain ⟨hbefore, hrest⟩ := along_append_iff.1 (along_append_iff.1 horderly).1
    have hpolicy : t.policy = s.policy := run_policy s before
    have hpolicy' : t'.policy = s.policy := run_policy s (before ++ a :: mid)
    have ht : t' = (t.run (a :: mid)).2 := run_append s before (a :: mid)
    have hle (o r o' r') (hv : t.tiers.verdict s.policy t.now .strict c = .found o r)
        (hv' : t'.tiers.verdict s.policy t'.now .strict c = .found o' r') :
        r.capturedAt ≤ r'.capturedAt := by
      rw [← hpolicy] at hv
      rw [← hpolicy', ht] at hv'
      exact (hstamped.run hbefore).capturedAt_le hrest hc hq hq' hv hv'
    refine ⟨hle, fun x x' hx hx' ↦ ?_⟩
    obtain ⟨o, r, hv, hr⟩ := exists_found_of_amount hc hq hx
    obtain ⟨o', r', hv', hr'⟩ := exists_found_of_amount hc hq' hx'
    rw [hpolicy] at hv
    rw [hpolicy'] at hv'
    exact ⟨o, r, o', r', hv, hr, hv', hr', hle o r o' r' hv hv'⟩

theorem inPlainYears_of_stamps (hs : s.tiers.source.inner.Every Provider.Stamps)
    (h : s.now.HasPlainYear) : s.InPlainYears := by
  refine ⟨h, fun c r hr ↦ ?_⟩
  rw [hs.answer_capturedAt (Monitored.fetch_eq_ok_iff.1 hr).2]
  exact h

def rowSession : Session :=
  start bankPolicy (midnight 9) (.timed (.empty (Span.ofSeconds 60))) (.rows ⟨∅⟩)
    [.fixed "bank" (Table.insert ∅ won (wonRecord "bank" 350 (midnight 9)).rate)]

def rowSteps : List Step :=
  [.resolve .strict "KRW", .advance (Span.ofSeconds 172800), .resolve .strict "KRW"]

theorem run_coherence_won :
    rowSession.Empty ∧ (∀ a ∈ rowSteps, ¬ a.Disturbs) ∧
      rowSession.Along (fun s _ ↦ s.InPlainYears) rowSteps ∧
      rowSession.Along (fun s a ↦ s.now ≤ (s.step a).2.now) rowSteps ∧
      rowSession.tiers.source.inner.Every Provider.Stamps ∧
      (∃ r, (rowSession.run rowSteps).2.tiers.store.inner.record? won = some r ∧
        r.Agrees (wonRecord "bank" 350 (midnight 11))) ∧
      (wonRecord "bank" 350 (midnight 9)).capturedAt ≤
        (wonRecord "bank" 350 (midnight 11)).capturedAt ∧
      ∃ r r' : RateRecord, r.rate = (wonRecord "bank" 350 (midnight 9)).rate ∧
        r'.rate = (wonRecord "bank" 350 (midnight 9)).rate ∧ r.capturedAt ≤ r'.capturedAt := by
  have hempty : rowSession.Empty := ⟨rfl, .inr ⟨_, rfl⟩, .inr rfl, rfl, rfl⟩
  have has : ∀ a ∈ rowSteps, ¬ a.Disturbs := by simp [rowSteps, Step.Disturbs]
  have hsource : rowSession.tiers.source.inner.Every Provider.Stamps := by
    intro p hp
    obtain rfl := List.mem_singleton.1 hp
    trivial
  have hstamps₁ := step_every Provider.stable_stamps hsource (.resolve .strict "KRW")
  have hstamps₂ := step_every Provider.stable_stamps hstamps₁ (.advance (Span.ofSeconds 172800))
  have hyears : rowSession.Along (fun s _ ↦ s.InPlainYears) rowSteps :=
    ⟨inPlainYears_of_stamps hsource (by decide +kernel),
      inPlainYears_of_stamps hstamps₁ (by decide +kernel),
      inPlainYears_of_stamps hstamps₂ (by decide +kernel), trivial⟩
  have hclock : rowSession.Along (fun s a ↦ s.now ≤ (s.step a).2.now) rowSteps :=
    ⟨by decide +kernel, by decide +kernel, by decide +kernel, trivial⟩
  have hrun := run_coherence hempty has (fun _ ↦ hyears) hclock
  have hheld : (rowSession.run rowSteps).2.tiers.cache.inner.held? won =
      some (wonRecord "bank" 350 (midnight 11)) := by
    decide +kernel
  have hfirst : rowSession.tiers.verdict bankPolicy rowSession.now .strict won =
      .found .source (wonRecord "bank" 350 (midnight 9)) := by
    decide +kernel
  have hsecond : (rowSession.run (rowSteps.take 2)).2.tiers.verdict bankPolicy
      (rowSession.run (rowSteps.take 2)).2.now .strict won =
        .found .source (wonRecord "bank" 350 (midnight 11)) := by
    decide +kernel
  have hanswer : (rowSession.step (.resolve .strict "KRW")).1 =
      .ok (.amount (wonRecord "bank" 350 (midnight 9)).rate) := by
    decide +kernel
  have hanswer' : ((rowSession.run (rowSteps.take 2)).2.step (.resolve .strict "KRW")).1 =
      .ok (.amount (wonRecord "bank" 350 (midnight 9)).rate) := by
    decide +kernel
  obtain ⟨hle, hbehind⟩ := hrun.2 hsource [] _ [_] _ [] rfl won (by decide) rfl rfl
  obtain ⟨_, r, _, r', -, hr, -, hr', hle'⟩ := hbehind _ _ hanswer hanswer'
  exact ⟨hempty, has, hyears, hclock, hsource,
    hrun.1 won _ (.inr hheld) (by decide +kernel), hle _ _ _ _ hfirst hsecond,
    r, r', hr.symm, hr'.symm, hle'⟩

end Session

end TieredRates
