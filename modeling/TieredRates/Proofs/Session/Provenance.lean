import TieredRates.Proofs.Resolution.Strict
import TieredRates.Proofs.Session.Providers
import TieredRates.Proofs.Store.Rows

namespace TieredRates

/-- The step writes into the store past the resolver. -/
def Step.WritesStore : Step → Prop
  | .putStore _ | .writeRow .. => True
  | _ => False

namespace Session

/-- What the resolver stores for a currency at a step: a record that a caller gives, or a live one
that strict callers accept, when it is the source that answers a question about the currency. -/
inductive Stores (s : Session) (c : CurrencyCode) (r : RateRecord) : Step → Prop
  | recorded {code : String} {rate : Decimal} {provider : String} (ht : r.target = c)
      (h : (s.step (.record code rate provider)).1 = .ok (.record r)) :
      Stores s c r (.record code rate provider)
  | live {a : Step} {mode : Mode} (hq : a.question? = some (mode, c))
      (hv : s.tiers.verdict s.policy s.now mode c = .found .source r) (hp : s.policy.Trusts r) :
      Stores s c r a

end Session

namespace Tiers

variable {t : ServiceTiers} {p : Policy} {now : Instant} {mode : Mode} {c : CurrencyCode}

theorem rateOf_store : (t.rateOf p now mode c).2.store.inner = t.store.inner ∨
    ∃ r, t.verdict p now mode c = .found .source r ∧ p.Trusts r ∧
      (t.rateOf p now mode c).2.store.inner = (RateStore.put t.store.inner r).2 := by
  by_cases hc : c = .usd
  · rw [hc, rateOf_usd]
    exact .inl rfl
  have hget := Monitored.inner_getStore t.store c
  rw [rateOf_eq hc, after_store]
  split
  · exact .inl rfl
  · exact .inl rfl
  · next r hv =>
    split
    · next hp =>
      rcases Monitored.putStore_cases (RateStore.get t.store c).2 r with h | h
      · exact .inl (h.trans hget)
      · exact .inr ⟨r, hv, hp, hget ▸ h⟩
    · exact .inl hget
  · exact .inl hget

theorem record_store (t : ServiceTiers) (now : Instant) (code : String) (rate : Decimal)
    (provider : String) :
    (t.record now code rate provider).2.store.inner = t.store.inner ∨
      ∃ r, (t.record now code rate provider).1 = .ok r ∧
        (t.record now code rate provider).2.store.inner = (RateStore.put t.store.inner r).2 := by
  rcases t.record_cases now code rate provider with ⟨e, h⟩ | ⟨r, e, hp, h⟩ | ⟨r, -, hp, h⟩
  · rw [h]
    exact .inl rfl
  · rw [h]
    refine .inl ((Monitored.inner_putStore t.store r).trans (if_pos ?_))
    cases hd : t.store.down.puts with
    | true => rfl
    | false => simp [(Monitored.putStore_eq_ok_iff t.store r).2 hd] at hp
  · rw [h]
    refine .inr ⟨r, rfl, (Monitored.inner_putStore t.store r).trans (if_neg ?_)⟩
    simp [(Monitored.putStore_eq_ok_iff t.store r).1 hp]

end Tiers

namespace Session

variable {s : Session} {a : Step} {as : List Step} {mode : Mode} {c : CurrencyCode} {r : RateRecord}

theorem step_store (ha : ¬ a.WritesStore) :
    (s.step a).2.tiers.store.inner = s.tiers.store.inner ∨ ∃ c r, s.Stores c r a ∧
      (s.step a).2.tiers.store.inner = (RateStore.put s.tiers.store.inner r).2 := by
  cases hq : a.question? with
  | some q =>
    obtain ⟨mode, c⟩ := q
    rw [step_tiers_of_question hq]
    rcases Tiers.rateOf_store (t := s.tiers) (p := s.policy) (c := c) with h | ⟨r, hv, hp, h⟩
    · exact .inl h
    · exact .inr ⟨c, r, .live hq hv hp, h⟩
  | none =>
    cases a with
    | resolve | convert | list | request =>
      rcases step_tiers_of_none hq trivial with ht | ht
      · exact .inl (by rw [ht])
      · rw [ht]
        exact .inl (Monitored.inner_listStore s.tiers.store)
    | record code rate provider =>
      rcases s.tiers.record_store s.now code rate provider with h | ⟨r, hr, h⟩
      · exact .inl h
      · refine .inr ⟨r.target, r, .recorded rfl ?_, h⟩
        simp only [step, finish, hr]
        rfl
    | check tier mode c time =>
      cases tier with
      | store => exact .inl (Monitored.inner_getStore s.tiers.store c)
      | _ => exact .inl rfl
    | getStore c => exact .inl (Monitored.inner_getStore s.tiers.store c)
    | listStore => exact .inl (Monitored.inner_listStore s.tiers.store)
    | putStore r => exact (ha trivial).elim
    | writeRow key row => exact (ha trivial).elim
    | _ => exact .inl rfl

theorem Stores.target (h : s.Stores c r a) (hk : s.tiers.source.inner.Every Provider.Keyed) :
    r.target = c := by
  cases h with
  | recorded ht _ => exact ht
  | live _ hv _ => exact hk.answer_target (Tiers.answer_of_verdict hv)

theorem run_store {R : Store → Prop} (hread : ∀ s r₀,
      R (RateStore.put s r₀).2 → R s ∨ r₀.target = c ∧ r = s.kept r₀)
    (hk : s.tiers.source.inner.Every Provider.Keyed) (has : ∀ a ∈ as, ¬ a.WritesStore)
    (h : R (s.run as).2.tiers.store.inner) :
    R s.tiers.store.inner ∨ ∃ before a after r₀, as = before ++ a :: after ∧
      (s.run before).2.Stores c r₀ a ∧ r₀.target = c ∧ r = s.tiers.store.inner.kept r₀ := by
  -- the record goes back to the last step that stored it
  induction as generalizing s with
  | nil => exact .inl h
  | cons a as ih =>
    have hstep := step_store (s := s) (has a (by simp))
    have hkept : ∀ r₀, (s.step a).2.tiers.store.inner.kept r₀ = s.tiers.store.inner.kept r₀ := by
      intro r₀
      rcases hstep with hs | ⟨_, _, -, hs⟩
      · rw [hs]
      · rw [hs, Store.kept_put]
    rcases ih (step_every Provider.stable_keyed hk a) (fun b hb ↦ has b (by simp [hb])) h with
      h | ⟨before, b, after, r₀, rfl, hb, ht, hr⟩
    · rcases hstep with hs | ⟨d, r₀, hstores, hs⟩
      · exact .inl (hs ▸ h)
      · rcases hread _ r₀ (hs ▸ h) with h | ⟨rfl, hr⟩
        · exact .inl h
        · obtain rfl := hstores.target hk
          exact .inr ⟨[], a, as, r₀, rfl, hstores, rfl, hr⟩
    · exact .inr ⟨a :: before, b, after, r₀, rfl, hb, ht, hr.trans (hkept r₀)⟩

/-- Each record that the store gives for a currency, and each that it lists, was there at the
beginning or was stored for that currency on the way; the caches are never written back. -/
theorem run_provenance (hk : s.tiers.source.inner.Every Provider.Keyed)
    (has : ∀ a ∈ as, ¬ a.WritesStore) :
    (∀ c r, (s.run as).2.tiers.store.inner.record? c = some r →
      s.tiers.store.inner.record? c = some r ∨ ∃ before a after r₀, as = before ++ a :: after ∧
        (s.run before).2.Stores c r₀ a ∧ r₀.target = c ∧ r = s.tiers.store.inner.kept r₀) ∧
    ∀ r, (s.run as).2.tiers.store.inner.Lists r →
      s.tiers.store.inner.Lists r ∨ ∃ before a after r₀, as = before ++ a :: after ∧
        (s.run before).2.Stores r.target r₀ a ∧ r₀.target = r.target ∧
        r = s.tiers.store.inner.kept r₀ := by
  constructor
  · intro c r h
    refine run_store (R := fun s ↦ s.record? c = some r) (fun s r₀ h ↦ ?_) hk has h
    exact (Store.record?_put h).imp_right fun h ↦ ⟨h.1.symm, h.2⟩
  · intro r h
    refine run_store (R := fun s ↦ s.Lists r) (fun s r₀ h ↦ ?_) hk has h
    refine (Store.lists_put h).imp_right fun h ↦ ⟨?_, h⟩
    rw [h, Store.kept_target]

def wonSession : Session :=
  start bankPolicy (midnight 9) (.table ∅) (.table ∅)
    [.canned "live" (Table.insert ∅ won (wonRecord "paper" 400 (midnight 9)))]

def wonSteps : List Step :=
  [.resolve .nonStrict "KRW", .setRecord "live" (wonRecord "bank" 350 (midnight 9)), .clearFirst,
    .removeCache won, .resolve .strict "KRW"]

theorem run_provenance_won :
    wonSession.tiers.source.inner.Every Provider.Keyed ∧ (∀ a ∈ wonSteps, ¬ a.WritesStore) ∧
      (wonSession.run wonSteps).2.tiers.store.inner.record? won =
        some (wonRecord "bank" 350 (midnight 9)) ∧
      ∃ before a after r₀, wonSteps = before ++ a :: after ∧
        (wonSession.run before).2.Stores won r₀ a ∧ r₀.target = won ∧
        wonRecord "bank" 350 (midnight 9) = wonSession.tiers.store.inner.kept r₀ := by
  have hk : wonSession.tiers.source.inner.Every Provider.Keyed := by
    intro p hp
    obtain rfl := List.mem_singleton.1 hp
    intro c r h
    by_cases hc : c = won
    · subst hc
      rw [Table.get?_insert_self] at h
      exact (congrArg RateRecord.target (Option.some.inj h)).symm
    · rw [Table.get?_insert_of_ne _ hc] at h
      exact absurd h (by simp)
  have has : ∀ a ∈ wonSteps, ¬ a.WritesStore := by
    simp [wonSteps, Step.WritesStore]
  have hr : (wonSession.run wonSteps).2.tiers.store.inner.record? won =
      some (wonRecord "bank" 350 (midnight 9)) := by
    decide +kernel
  refine ⟨hk, has, hr, ?_⟩
  rcases (run_provenance hk has).1 won _ hr with h | h
  · exact absurd h (by decide)
  · exact h

end Session

end TieredRates
