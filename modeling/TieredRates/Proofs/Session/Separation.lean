import TieredRates.Proofs.Resolution.Separation
import TieredRates.Proofs.Session.Answer
import TieredRates.Proofs.Session.Recording

namespace TieredRates

namespace Step

def currency? : Step → Option CurrencyCode
  | resolve _ code | convert _ _ _ code | record code _ _ => CurrencyCode.parse? code
  | request q => q.question?.map (·.2)
  | check _ _ c _ | getFirst c | getCache c | getStore c => some c
  | fetch c | route c | setRate _ c _ => some c
  | putFirst r _ | putCache r | putStore r | setRecord _ r => some r.target
  | _ => none

/-- The step is not about another currency. -/
def Concerns (c : CurrencyCode) (a : Step) : Prop := ∀ d, a.currency? = some d → d = c

instance (c : CurrencyCode) (a : Step) : Decidable (a.Concerns c) :=
  inferInstanceAs (Decidable (∀ d, a.currency? = some d → d = c))

variable {a : Step} {mode : Mode} {c : CurrencyCode}

theorem currency?_of_asks (ha : a.Asks) : a.currency? = a.question?.map (·.2) := by
  cases a with
  | resolve mode code | convert mode direction amount code =>
    rw [currency?, question?]
    cases CurrencyCode.parse? code <;> rfl
  | list | request q => rfl
  | _ => exact ha.elim

theorem exists_question_of_asks (ha : a.Asks) (hc : a.currency? = some c) :
    ∃ mode, a.question? = some (mode, c) := by
  rw [currency?_of_asks ha] at hc
  obtain ⟨q, hq, rfl⟩ := Option.map_eq_some_iff.1 hc
  exact ⟨q.1, hq⟩

theorem Concerns.question (h : a.Concerns c) {d : CurrencyCode}
    (hq : a.question? = some (mode, d)) : d = c := by
  have ha : a.Asks := asks_of_question hq
  exact h d (by rw [currency?_of_asks ha, hq, Option.map_some])

end Step

namespace Session

/-- Two sessions with the same settings at the same time that have the same for a currency. -/
structure SameAt (c : CurrencyCode) (s s' : Session) : Prop where
  policy : s.policy = s'.policy
  now : s.now = s'.now
  tiers : s.tiers.slice c = s'.tiers.slice c

variable {s s' s'' : Session} {a : Step} {as : List Step} {c d : CurrencyCode}

theorem SameAt.refl (c : CurrencyCode) (s : Session) : s.SameAt c s := ⟨rfl, rfl, rfl⟩

theorem SameAt.trans (h : s.SameAt c s') (h' : s'.SameAt c s'') : s.SameAt c s'' :=
  ⟨h.policy.trans h'.policy, h.now.trans h'.now, h.tiers.trans h'.tiers⟩

section Others

variable (hk : s.tiers.Keyed) (ha : a.currency? = some d) (hd : d ≠ c)

theorem slice_setProviders_of_ne {f : Provider → Provider} (hf : ∀ p, (f p).slice c = p.slice c) :
    (s.setProviders f).2.tiers.slice c = s.tiers.slice c :=
  Tiers.slice_eq_iff.2 ⟨rfl, rfl, rfl, Monitored.only_eq_iff.2 ⟨Registry.slice_map_of_ne hf, rfl⟩⟩

include hk ha hd

theorem step_tiers_of_ne : (s.step a).2.tiers.slice c = s.tiers.slice c := by
  cases a with
  | resolve | convert | list | request =>
    obtain ⟨mode, hq⟩ := Step.exists_question_of_asks (by trivial) ha
    rw [step_tiers_of_question hq]
    exact Tiers.slice_rateOf_of_ne hk hd
  | record code rate provider =>
    have hcode : CurrencyCode.parse? code ≠ some c := fun h ↦ hd (Option.some.inj (ha.symm.trans h))
    exact Tiers.slice_record_of_ne hcode
  | check tier mode e time =>
    obtain rfl := Option.some.inj ha
    cases tier with
    | first => rfl
    | cache => exact Tiers.slice_askCache_of_ne hd
    | store => exact Tiers.slice_eq_iff.2 ⟨rfl, rfl, Monitored.only_getStore _, rfl⟩
  | putFirst r cachedAt =>
    obtain rfl := Option.some.inj ha
    exact Tiers.slice_fillFirst_of_ne hd
  | putCache r =>
    obtain rfl := Option.some.inj ha
    exact Tiers.slice_fillCache_of_ne hd
  | getCache e =>
    obtain rfl := Option.some.inj ha
    exact Tiers.slice_askCache_of_ne hd
  | putStore r =>
    obtain rfl := Option.some.inj ha
    exact Tiers.slice_persist_of_ne hd
  | getStore e => exact Tiers.slice_eq_iff.2 ⟨rfl, rfl, Monitored.only_getStore _, rfl⟩
  | fetch e =>
    obtain rfl := Option.some.inj ha
    exact Tiers.slice_eq_iff.2
      ⟨rfl, rfl, rfl, Monitored.only_eq_iff.2 ⟨Registry.slice_asked_of_ne hd, rfl⟩⟩
  | setRate name e rate =>
    obtain rfl := Option.some.inj ha
    exact slice_setProviders_of_ne fun p ↦ p.slice_setRate_of_ne hd rate
  | setRecord name r =>
    obtain rfl := Option.some.inj ha
    exact slice_setProviders_of_ne fun p ↦ p.slice_setRecord_of_ne hd
  | getFirst e | route e => rfl
  | _ => exact absurd ha (by simp [Step.currency?])

theorem step_sameAt_of_ne : (s.step a).2.SameAt c s where
  policy := s.step_policy a
  now := by
    rw [step_now]
    split
    · exact absurd ha (by simp [Step.currency?])
    · rfl
  tiers := step_tiers_of_ne hk ha hd

end Others

section Same

theorem SameAt.step_tiers (h : s.SameAt c s') (ha : a.Concerns c) :
    (s.step a).2.tiers.slice c = (s'.step a).2.tiers.slice c := by
  have htiers := h.tiers
  obtain ⟨hfirst, hcache, hstore, hsource⟩ := Tiers.slice_eq_iff.1 htiers
  cases a with
  | resolve | convert | list | request =>
    refine step_rel (R := fun t t' ↦ t.slice c = t'.slice c) (by trivial) h.policy h.now htiers
      (fun mode d hq ↦ ?_) ?_
    · obtain rfl := ha.question hq
      exact (Tiers.rateOf_of_slice htiers s.policy s.now mode).2
    · exact (Tiers.slice_listStore c).trans (htiers.trans (Tiers.slice_listStore c).symm)
  | advance span => exact htiers
  | record code rate provider =>
    simp only [step, finish, ← h.now]
    exact (Tiers.record_of_slice htiers s.now code rate provider).2
  | switchCache down =>
    have hinner := (Monitored.only_eq_iff.1 hcache).1
    exact Tiers.slice_eq_iff.2 ⟨hfirst, Monitored.only_eq_iff.2 ⟨hinner, rfl⟩, hstore, hsource⟩
  | switchStore down =>
    have hinner := (Monitored.only_eq_iff.1 hstore).1
    exact Tiers.slice_eq_iff.2 ⟨hfirst, hcache, Monitored.only_eq_iff.2 ⟨hinner, rfl⟩, hsource⟩
  | switchSource down =>
    have hinner := (Monitored.only_eq_iff.1 hsource).1
    exact Tiers.slice_eq_iff.2 ⟨hfirst, hcache, hstore, Monitored.only_eq_iff.2 ⟨hinner, rfl⟩⟩
  | check tier mode e time =>
    obtain rfl := ha e rfl
    cases tier with
    | first => exact htiers
    | cache =>
      simp only [step, check, ← h.now]
      exact Tiers.askCache_of_slice htiers
    | store => exact Tiers.getStore_tiers_of_slice htiers
  | putFirst r cachedAt =>
    simp only [step, proceed, ← h.now]
    exact Tiers.fillFirst_of_slice htiers
  | getFirst e => exact htiers
  | listFirst window time => exact htiers
  | clearFirst => exact Tiers.slice_eq_iff.2 ⟨rfl, hcache, hstore, hsource⟩
  | putCache r =>
    simp only [step, finish, ← h.now]
    exact Tiers.fillCache_of_slice htiers
  | getCache e =>
    obtain rfl := ha e rfl
    simp only [step, finish, ← h.now]
    exact Tiers.askCache_of_slice htiers
  | removeCache e =>
    exact Tiers.mapCache_of_slice (f := (·.remove e)) htiers fun k ↦ Cache.slice_remove_slice
  | plantCache key value =>
    exact Tiers.mapCache_of_slice (f := (·.plant key value)) htiers fun k ↦ Cache.slice_plant_slice
  | putStore r => exact Tiers.persist_of_slice htiers
  | getStore e =>
    obtain rfl := ha e rfl
    exact Tiers.getStore_tiers_of_slice htiers
  | listStore => exact (Tiers.slice_listStore c).trans (htiers.trans (Tiers.slice_listStore c).symm)
  | writeRow key row =>
    obtain ⟨hinner, hdown⟩ := Monitored.only_eq_iff.1 hstore
    refine Tiers.slice_eq_iff.2 ⟨hfirst, hcache, Monitored.only_eq_iff.2 ⟨?_, hdown⟩, hsource⟩
    show (s.tiers.store.inner.writeRow key row).1.slice c =
      (s'.tiers.store.inner.writeRow key row).1.slice c
    rw [← Store.slice_writeRow_slice, hinner, Store.slice_writeRow_slice]
  | fetch e =>
    obtain rfl := ha e rfl
    exact Tiers.mapSource_of_slice (f := (·.asked e)) htiers fun g ↦ Registry.slice_asked_slice
  | route e => exact htiers
  | setRate name e rate =>
    exact Tiers.mapSource_of_slice (f := fun g ↦ ⟨g.providers.map (.setRate name e rate)⟩) htiers
      fun g ↦ Registry.slice_map_slice fun p ↦ Provider.slice_setRate_slice
  | setRecord name r =>
    exact Tiers.mapSource_of_slice (f := fun g ↦ ⟨g.providers.map (.setRecord name r)⟩) htiers
      fun g ↦ Registry.slice_map_slice fun p ↦ Provider.slice_setRecord_slice
  | setReply name reply =>
    exact Tiers.mapSource_of_slice (f := fun g ↦ ⟨g.providers.map (.setReply name reply)⟩) htiers
      fun g ↦ Registry.slice_map_slice fun p ↦ Provider.slice_setReply_slice

theorem SameAt.step (h : s.SameAt c s') (ha : a.Concerns c) :
    (s.step a).2.SameAt c (s'.step a).2 where
  policy := by rw [step_policy, step_policy, h.policy]
  now := by rw [step_now, step_now, h.now]
  tiers := h.step_tiers ha

theorem SameAt.step_answer (h : s.SameAt c s') (ha : a.currency? = some c) :
    (s.step a).1 = (s'.step a).1 := by
  have htiers := h.tiers
  obtain ⟨hfirst, hcache, hstore, hsource⟩ := Tiers.slice_eq_iff.1 htiers
  cases a with
  | resolve | convert | list | request =>
    obtain ⟨mode, hq⟩ := Step.exists_question_of_asks (by trivial) ha
    refine step_congr (by trivial) h.policy h.now (fun mode' d hd ↦ ?_) fun hnone ↦ ?_
    · obtain ⟨rfl, rfl⟩ := Prod.mk.inj (Option.some.inj (hq.symm.trans hd))
      exact (Tiers.rateOf_of_slice htiers s.policy s.now mode).1
    · exact absurd (hq.symm.trans hnone) (by simp)
  | record code rate provider =>
    simp only [Session.step, finish, ← h.now,
      (Tiers.record_of_slice htiers s.now code rate provider).1]
  | check tier mode e time =>
    obtain rfl := Option.some.inj ha
    cases tier with
    | first =>
      simp only [Session.step, proceed, check, h.policy, h.now, Tiers.first_of_slice htiers]
    | cache =>
      simp only [Session.step, proceed, check, ← h.policy, ← h.now, Tiers.getCache_of_slice htiers]
    | store =>
      simp only [Session.step, proceed, check, ← h.policy, ← h.now, Tiers.getStore_of_slice htiers]
  | getFirst e =>
    obtain rfl := Option.some.inj ha
    simp only [Session.step, proceed, Tiers.first_of_slice htiers]
  | putCache r =>
    simp only [Session.step, finish, ← h.now, (Monitored.putCache_congr hcache).1]
  | getCache e =>
    obtain rfl := Option.some.inj ha
    simp only [Session.step, finish, ← h.now, Tiers.getCache_of_slice htiers]
  | putStore r => simp only [Session.step, finish, (Monitored.putStore_congr hstore).1]
  | getStore e =>
    obtain rfl := Option.some.inj ha
    simp only [Session.step, finish, Tiers.getStore_of_slice htiers]
  | fetch e =>
    obtain rfl := Option.some.inj ha
    have hinner := (Monitored.only_eq_iff.1 hsource).1
    have hanswer : s.tiers.source.inner.answer s.now e = s'.tiers.source.inner.answer s.now e := by
      rw [← Registry.answer_slice, hinner, Registry.answer_slice]
    simp only [Session.step, finish, ← h.now, LiveSource.fetch, hanswer]
  | route e =>
    obtain rfl := Option.some.inj ha
    have hinner := (Monitored.only_eq_iff.1 hsource).1
    simp only [Session.step, proceed]
    rw [← Registry.length_slice (c := e), ← Registry.supports_slice, hinner, Registry.length_slice,
      Registry.supports_slice]
  | putFirst | setRate | setRecord => rfl
  | _ => exact absurd ha (by simp [Step.currency?])

end Same

/-- The answers to those steps of a run that are about a currency. -/
def answersAbout (s : Session) (c : CurrencyCode) (as : List Step) :
    List (Step × Except StepError Answer) :=
  (as.zip (s.run as).1).filter fun x ↦ x.1.currency? = some c

theorem answersAbout_cons : s.answersAbout c (a :: as) =
    if a.currency? = some c then (a, (s.step a).1) :: (s.step a).2.answersAbout c as
    else (s.step a).2.answersAbout c as := by
  simp only [answersAbout, run, List.zip_cons_cons, List.filter_cons, decide_eq_true_eq]

theorem SameAt.run (hk : s.tiers.Keyed) (h : s.SameAt c s') (as : List Step) :
    s.answersAbout c as = s'.answersAbout c (as.filter fun a ↦ a.Concerns c) ∧
      (s.run as).2.SameAt c (s'.run (as.filter fun a ↦ a.Concerns c)).2 := by
  induction as generalizing s s' with
  | nil => exact ⟨rfl, h⟩
  | cons a as ih =>
    have hk' := step_keyed hk a
    by_cases ha : a.Concerns c
    · rw [List.filter_cons_of_pos (by simpa using ha), answersAbout_cons, answersAbout_cons]
      obtain ⟨hanswers, hrun⟩ := ih hk' (h.step ha)
      refine ⟨?_, hrun⟩
      split
      · next hc => rw [h.step_answer hc, hanswers]
      · exact hanswers
    · obtain ⟨d, hd, hne⟩ : ∃ d, a.currency? = some d ∧ d ≠ c := by simpa [Step.Concerns] using ha
      have hc : ¬ a.currency? = some c := fun hc ↦ hne (Option.some.inj (hd.symm.trans hc))
      rw [List.filter_cons_of_neg (by simpa using ha), answersAbout_cons, if_neg hc]
      exact ih hk' ((step_sameAt_of_ne hk hd hne).trans h)

theorem run_swap (hk : s.tiers.Keyed) {a b : Step} {d e : CurrencyCode} (ha : a.currency? = some d)
    (hb : b.currency? = some e) (hde : d ≠ e) :
    (s.run [b, a]).1 = (s.run [a, b]).1.reverse ∧
      (s.run [b, a]).2.tiers.contents = (s.run [a, b]).2.tiers.contents := by
  have hanswer_a : ((s.step b).2.step a).1 = (s.step a).1 :=
    (step_sameAt_of_ne hk hb hde.symm).step_answer ha
  have hanswer_b : ((s.step a).2.step b).1 = (s.step b).1 :=
    (step_sameAt_of_ne hk ha hde).step_answer hb
  refine ⟨?_, Tiers.contents_ext fun c ↦ ?_⟩
  · simp only [run, hanswer_a, hanswer_b, List.reverse_cons, List.reverse_nil, List.nil_append,
      List.cons_append]
  · -- At most one of the two steps is not about another currency.
    have hfilter : [b, a].filter (fun a ↦ a.Concerns c) = [a, b].filter fun a ↦ a.Concerns c := by
      by_cases hdc : d = c
      · have hec : ¬ e = c := fun hec ↦ hde (hdc.trans hec.symm)
        simp [Step.Concerns, ha, hb, hdc, hec]
      · simp [List.filter_cons, Step.Concerns, ha, hb, hdc]
    have hrun_b := ((SameAt.refl c s).run hk [b, a]).2.tiers
    have hrun_a := ((SameAt.refl c s).run hk [a, b]).2.tiers
    rw [hrun_b, hfilter, hrun_a]

/-- Currencies do not interfere. Without the steps that are about other currencies a run has the
same answers to those about a currency, and at its end, which may be any point of a longer run, the
same is kept for it and listed of it. And two steps about different currencies may be exchanged. -/
theorem run_separation (hk : s.tiers.Keyed) :
    (∀ c as,
      let bs := as.filter fun a ↦ a.Concerns c
      let t := (s.run as).2.tiers
      let t' := (s.run bs).2.tiers
      s.answersAbout c as = s.answersAbout c bs ∧
      t.first.get? c = t'.first.get? c ∧
      (∀ time,
        (SharedCache.get t.cache.inner time c).1 = (SharedCache.get t'.cache.inner time c).1) ∧
      (RateStore.get t.store.inner c).1 = (RateStore.get t'.store.inner c).1 ∧
      t.slice c = t'.slice c ∧
      ∀ p time, (t.rates p time).1.get? c = (t'.rates p time).1.get? c) ∧
    ∀ a b d e, a.currency? = some d → b.currency? = some e → d ≠ e →
      (s.run [b, a]).1 = (s.run [a, b]).1.reverse ∧
      (s.run [b, a]).2.tiers.contents = (s.run [a, b]).2.tiers.contents := by
  refine ⟨fun c as ↦ ?_, fun a b d e ha hb hde ↦ run_swap hk ha hb hde⟩
  obtain ⟨hanswers, hrun⟩ := (SameAt.refl c s).run hk as
  have hslice := hrun.tiers
  obtain ⟨-, hcache, hstore, -⟩ := Tiers.slice_eq_iff.1 hslice
  have hcache' := (Monitored.only_eq_iff.1 hcache).1
  have hstore' := (Monitored.only_eq_iff.1 hstore).1
  refine ⟨hanswers, Tiers.first_of_slice hslice, fun time ↦ ?_, ?_, hslice, ?_⟩
  · rw [← Cache.get_slice, hcache', Cache.get_slice]
  · rw [← Store.get_slice, hstore', Store.get_slice]
  · exact Tiers.rates_of_slice hslice (run_keyed hk as) (run_keyed hk _)

def euroStep (more : Nat) : Step := .record "EUR" (deskRecord more).rate "desk"

def mixedSteps : List Step :=
  [deskStep 300, euroStep 900, .clearFirst, .resolve .strict "EUR", .resolve .nonStrict "KRW",
    .switchStore .total, euroStep 800, deskStep 400]

theorem run_separation_won :
    deskSession.tiers.Keyed ∧
      mixedSteps.filter (fun a ↦ a.Concerns won) =
        [deskStep 300, .clearFirst, .resolve .nonStrict "KRW", .switchStore .total, deskStep 400] ∧
      (deskSession.answersAbout won mixedSteps).map (·.2) =
        [.ok (.record (deskRecord 300)), .ok (.amount (deskRecord 300).rate),
          .error (.store (.database "connection refused"))] ∧
      (deskSession.run [euroStep 900, deskStep 300]).2.tiers.contents =
        (deskSession.run [deskStep 300, euroStep 900]).2.tiers.contents := by
  obtain ⟨hdelete, hswap⟩ := run_separation deskSession_keyed
  have hfilter : mixedSteps.filter (fun a ↦ a.Concerns won) =
      [deskStep 300, .clearFirst, .resolve .nonStrict "KRW", .switchStore .total, deskStep 400] := rfl
  refine ⟨deskSession_keyed, hfilter, ?_, ?_⟩
  · rw [(hdelete won mixedSteps).1, hfilter]
    decide +kernel
  · exact (hswap (deskStep 300) (euroStep 900) won _ rfl rfl (by decide)).2

end Session

end TieredRates
