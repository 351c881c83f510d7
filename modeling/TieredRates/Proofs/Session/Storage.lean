import TieredRates.Proofs.Session.Mirror

namespace TieredRates

namespace Tiers

variable {t : ServiceTiers} {p : Policy} {now : Instant} {mode : Mode} {c : CurrencyCode}

theorem rateOf_inner : (t.rateOf p now mode c).2.store.inner =
    (t.persisted? p now mode c).elim t.store.inner
      fun r ↦ (RateStore.put t.store.inner r).2 := by
  by_cases hc : c = .usd
  · subst hc
    simp [rateOf_usd, persisted?]
  have hget := Monitored.inner_getStore t.store c
  have hdown : (RateStore.get t.store c).2.down = t.store.down :=
    Monitored.down_pass t.store.countGet _ _ _
  rw [rateOf_eq hc, after_store, persisted?]
  cases t.verdict p now mode c with
  | refused r => simp [hget]
  | failed e => simp [hget]
  | found o r =>
    cases o with
    | first => simp
    | cache => simp
    | store => simp [hget]
    | source =>
      by_cases hr : p.Trusts r
      · simp only [hr, if_true, Monitored.inner_putStore, hget, hdown, hc, false_or]
        cases t.store.down.puts <;> rfl
      · simp [hr, hget]

theorem record_inner (t : ServiceTiers) (now : Instant) (code : String) (rate : Decimal)
    (provider : String) : (t.record now code rate provider).2.store.inner =
      match CurrencyCode.parse code >>= fun c ↦ RateRecord.make c rate provider now with
      | .ok r => if t.store.down.puts then t.store.inner else (RateStore.put t.store.inner r).2
      | .error _ => t.store.inner := by
  rw [Tiers.record]
  cases CurrencyCode.parse code >>= fun c ↦ RateRecord.make c rate provider now with
  | error e => rfl
  | ok r =>
    have hput := Monitored.inner_putStore t.store r
    simp only
    split <;> exact hput

end Tiers

namespace Session

variable {s : Session} {a : Step} {as : List Step} {c : CurrencyCode} {r : RateRecord}

/-- The last record of a currency that a run puts into the store. -/
def lastPersisted? (s : Session) (c : CurrencyCode) : List Step → Option RateRecord
  | [] => none
  | a :: as =>
    ((s.step a).2.lastPersisted? c as).or ((s.persisted? a).filter fun r ↦ r.target = c)

theorem step_inner (ha : ∀ key row, a ≠ .writeRow key row) :
    (s.step a).2.tiers.store.inner =
      (s.persisted? a).elim s.tiers.store.inner
        fun r ↦ (RateStore.put s.tiers.store.inner r).2 := by
  cases hq : a.question? with
  | some q =>
    rw [step_tiers_of_question hq, persisted?_of_asks (Step.asks_of_question hq), hq]
    exact Tiers.rateOf_inner
  | none =>
    by_cases hasks : a.Asks
    · rw [persisted?_of_asks hasks, hq]
      rcases step_tiers_of_none hq hasks with ht | ht
      · rw [ht]
        rfl
      · rw [ht]
        exact Monitored.inner_listStore s.tiers.store
    cases a with
    | resolve | convert | list | request => exact absurd trivial hasks
    | record code rate provider =>
      refine (s.tiers.record_inner s.now code rate provider).trans ?_
      rw [persisted?]
      cases CurrencyCode.parse code >>= fun c ↦ RateRecord.make c rate provider s.now with
      | error e => cases s.tiers.store.down.puts <;> rfl
      | ok r => cases s.tiers.store.down.puts <;> rfl
    | putStore r =>
      refine (Monitored.inner_putStore s.tiers.store r).trans ?_
      rw [persisted?]
      cases s.tiers.store.down.puts <;> rfl
    | check tier mode d time =>
      cases tier with
      | store => exact Monitored.inner_getStore s.tiers.store d
      | _ => rfl
    | getStore d => exact Monitored.inner_getStore s.tiers.store d
    | listStore => exact Monitored.inner_listStore s.tiers.store
    | writeRow key row => exact absurd rfl (ha key row)
    | _ => rfl

theorem target_of_lastPersisted? (h : s.lastPersisted? c as = some r) : r.target = c := by
  induction as generalizing s with
  | nil => exact nomatch h
  | cons a as ih =>
    rcases Option.or_eq_some_iff.1 h with h | ⟨-, h⟩
    · exact ih h
    · simpa using (Option.filter_eq_some_iff.1 h).2

theorem run_table (has : ∀ a ∈ as, ∀ key row, a ≠ .writeRow key row)
    {t : Table CurrencyCode RateRecord} (ht : s.tiers.store.inner = .table t) :
    ∃ t', (s.run as).2.tiers.store.inner = .table t' ∧
      ∀ c, t'.get? c = (s.lastPersisted? c as).or (t.get? c) := by
  induction as generalizing s t with
  | nil => exact ⟨t, ht, fun c ↦ rfl⟩
  | cons a as ih =>
    have hstep := step_inner (s := s) (has a (by simp))
    have hrest : ∀ b ∈ as, ∀ key row, b ≠ .writeRow key row := fun b hb ↦ has b (by simp [hb])
    rw [ht] at hstep
    simp only [lastPersisted?]
    cases hr : s.persisted? a with
    | none =>
      rw [hr] at hstep
      obtain ⟨t', ht', hget⟩ := ih hrest hstep
      exact ⟨t', ht', by simpa using hget⟩
    | some r =>
      rw [hr] at hstep
      obtain ⟨t', ht', hget⟩ := ih hrest (t := t.insert r.target r) hstep
      refine ⟨t', ht', fun c ↦ ?_⟩
      rw [hget, Option.or_assoc, Table.get?_insert]
      by_cases hc : c = r.target
      · simp [hc, Option.filter]
      · simp [hc, Ne.symm hc, Option.filter]

def withStore (s : Session) (store : Store) : Session :=
  { s with tiers := { s.tiers with store := { s.tiers.store with inner := store } } }

theorem withStore_mirrors (s : Session) : (s.withStore (.table ∅)).Mirrors
    (fun _ k k' ↦ k.undated = k'.undated) Store.Files (s.withStore (.rows ⟨∅⟩)) where
  policy := rfl
  now := rfl
  tiers := {
    first := rfl
    cache := ⟨rfl, rfl, rfl, rfl, rfl⟩
    store := ⟨Store.files_empty, rfl, rfl, rfl, rfl⟩
    source := rfl }

/-- From an empty store it is nothing to a run which of the two stores there is, if all that is
stored is of plain years: but for the days of quotations the steps have the same answers, and in the
end both list the last record stored of each currency, in order. -/
theorem run_storage (s : Session) {as : List Step}
    (has : ∀ a ∈ as, ¬ a.Tampers ∧ ∀ key row, a ≠ .writeRow key row)
    (hyears : (s.withStore (.table ∅)).Along
      (fun s a ↦ ∀ r ∈ s.persisted? a, r.capturedAt.HasPlainYear) as) :
    ((s.withStore (.table ∅)).run as).1.map (Except.map Answer.undated) =
      ((s.withStore (.rows ⟨∅⟩)).run as).1.map (Except.map Answer.undated) ∧
    ((s.withStore (.table ∅)).run as).2.calls = ((s.withStore (.rows ⟨∅⟩)).run as).2.calls ∧
    ∃ rs, (RateStore.list ((s.withStore (.table ∅)).run as).2.tiers.store.inner).1 = .ok rs ∧
      (RateStore.list ((s.withStore (.rows ⟨∅⟩)).run as).2.tiers.store.inner).1 =
        .ok (rs.map (·.undated)) ∧
      rs.Pairwise (fun r r' ↦ compare r.target r'.target = .lt) ∧
      ∀ r, r ∈ rs ↔ (s.withStore (.table ∅)).lastPersisted? r.target as = some r := by
  have hfits : (s.withStore (.table ∅)).Along (Fits (fun _ k k' ↦ k.undated = k'.undated)
      Store.Files fun r ↦ r.capturedAt.HasPlainYear) as := by
    refine Along.of_invariant (I := fun _ ↦ True) (fun _ _ _ _ ↦ trivial) ?_
      ((along_of_forall has).and hyears) trivial
    rintro s a - ⟨⟨htampers, hrow⟩, hyear⟩
    exact ⟨htampers, fun _ _ h ↦ h, fun key row ha ↦ absurd ha (hrow key row), hyear⟩
  obtain ⟨hanswers, hrun⟩ := s.withStore_mirrors.run Cache.mirroring_undated
    Store.mirroring_files hfits
  obtain ⟨t, ht, hget⟩ := run_table (s := s.withStore (.table ∅)) (fun a ha ↦ (has a ha).2) rfl
  simp only [Table.get?_empty, Option.or_none] at hget
  have hlists := hrun.tiers.store.inner.list
  rw [ht] at hlists ⊢
  have htarget : ∀ e ∈ t.entries, e.2.target = e.1 := by
    intro e he
    exact target_of_lastPersisted? ((hget e.1).symm.trans (Table.get?_eq_some_iff.2 he))
  refine ⟨hanswers, hrun.calls, t.values, rfl, hlists.symm, ?_, fun r ↦ ?_⟩
  · refine List.pairwise_map.2 (t.rising.imp_of_mem fun ha hb hlt ↦ ?_)
    rw [htarget _ ha, htarget _ hb]
    exact hlt
  · rw [← hget, Table.get?_eq_some_iff]
    constructor
    · intro hr
      obtain ⟨e, he, rfl⟩ := List.mem_map.1 hr
      rw [htarget e he]
      exact he
    · exact fun hr ↦ List.mem_map_of_mem hr

def euroRecord : RateRecord where
  __ := wonRecord "desk" 300 (midnight 9)
  target := ⟨⟨'E', by decide⟩, CurrencyCode.usd.first, won.second⟩
  target_ne := by decide

def storeSteps : List Step :=
  [.resolve .strict "KRW", .getStore won, .putStore (wonRecord "desk" 400 (midnight 8)),
    .switchStore .total, .putStore (wonRecord "desk" 500 (midnight 9)), .switchStore {},
    .record "EUR" euroRecord.rate "desk"]

def datedSession : Session := start bankPolicy (midnight 9) (.table ∅) (.table ∅) datedProviders

theorem run_storage_won :
    (∀ a ∈ storeSteps, ¬ a.Tampers ∧ ∀ key row, a ≠ .writeRow key row) ∧
      (datedSession.withStore (.table ∅)).Along
        (fun s a ↦ ∀ r ∈ s.persisted? a, r.capturedAt.HasPlainYear) storeSteps ∧
      ((datedSession.withStore (.rows ⟨∅⟩)).run storeSteps).1.map (Except.map Answer.undated) =
        [.ok (.amount datedRecord.rate), .ok (.record? (some datedRecord.undated)), .ok .done,
          .ok .done, .error (.store (.database "connection refused")), .ok .done,
          .ok (.record euroRecord)] ∧
      (RateStore.list ((datedSession.withStore (.rows ⟨∅⟩)).run storeSteps).2.tiers.store.inner).1 =
        .ok [euroRecord, wonRecord "desk" 400 (midnight 8)] := by
  have has : ∀ a ∈ storeSteps, ¬ a.Tampers ∧ ∀ key row, a ≠ .writeRow key row := by
    simp [storeSteps, Step.Tampers]
  have hyears : (datedSession.withStore (.table ∅)).Along
      (fun s a ↦ ∀ r ∈ s.persisted? a, r.capturedAt.HasPlainYear) storeSteps := by
    refine ⟨?_, ?_, ?_, ?_, ?_, ?_, ?_, trivial⟩
    all_goals decide +kernel
  obtain ⟨hanswers, -, rs, hrs, hrows, -⟩ := run_storage datedSession has hyears
  refine ⟨has, hyears, ?_, ?_⟩
  · rw [← hanswers]
    decide +kernel
  · have htable : (RateStore.list
        ((datedSession.withStore (.table ∅)).run storeSteps).2.tiers.store.inner).1 =
          .ok [euroRecord, wonRecord "desk" 400 (midnight 8)] := by
      decide +kernel
    obtain rfl := Except.ok.inj (hrs.symm.trans htable)
    exact hrows

end Session

end TieredRates
