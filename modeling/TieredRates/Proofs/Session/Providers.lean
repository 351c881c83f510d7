import TieredRates.Proofs.Resolution.Verdict
import TieredRates.Proofs.Session.Question
import TieredRates.Proofs.Session.Run
import TieredRates.Proofs.Source.Provider
import TieredRates.Proofs.Tier.Monitor

namespace TieredRates

/-- Asking and changing providers keep the condition. -/
structure Provider.Stable (P : Provider → Prop) : Prop where
  asked : ∀ p c, P p → P (p.asked c)
  setRate : ∀ p name c rate, P p → P (p.setRate name c rate)
  setRecord : ∀ p name r, P p → P (p.setRecord name r)
  setReply : ∀ p name reply, P p → P (p.setReply name reply)

theorem Provider.stable_keyed : Stable Keyed where
  asked p c hp := hp.asked c
  setRate p name c rate hp := by
    cases p with
    | fixed n rates =>
      rw [setRate]
      split <;> trivial
    | _ => exact hp
  setRecord p name r hp := by
    cases p with
    | canned n records =>
      rw [setRecord]
      split
      · intro c r' h
        by_cases hc : c = r.target
        · rw [hc, Table.get?_insert_self] at h
          exact hc ▸ congrArg RateRecord.target (Option.some.inj h).symm
        · exact hp c r' (Table.get?_insert_of_ne records hc r ▸ h)
      · exact hp
    | _ => exact hp
  setReply p name reply hp := by
    cases p with
    | feed f =>
      rw [setReply]
      split <;> trivial
    | _ => exact hp

theorem Provider.stable_stamps : Stable Stamps where
  asked p c hp := hp.asked c
  setRate p name c rate hp := by
    cases p with
    | fixed n rates =>
      rw [setRate]
      split <;> trivial
    | _ => exact hp
  setRecord p name r hp := by
    cases p with
    | canned n records => exact hp.elim
    | _ => exact hp
  setReply p name reply hp := by
    cases p with
    | feed f =>
      rw [setReply]
      split <;> trivial
    | _ => exact hp

variable {P : Provider → Prop}

theorem every_fetch (hP : Provider.Stable P) {m : Monitored Registry} (h : m.inner.Every P)
    (now : Instant) (c : CurrencyCode) : (LiveSource.fetch m now c).2.inner.Every P := by
  rw [Monitored.inner_fetch]
  split
  · exact h
  · exact h.asked hP.asked c

theorem Tiers.answer_of_verdict {t : ServiceTiers} {p : Policy} {now : Instant} {mode : Mode}
    {c : CurrencyCode} {r : RateRecord} (h : t.verdict p now mode c = .found .source r) :
    t.source.inner.answer now c = .ok r := by
  have hr := candidate?_of_verdict h
  have hlive := (candidate?_source_eq_some_iff.1 hr).1
  exact (Monitored.fetch_eq_ok_iff.1 hlive).2

theorem Tiers.every_rateOf (hP : Provider.Stable P) {t : ServiceTiers}
    (h : t.source.inner.Every P) (p : Policy) (now : Instant) (mode : Mode) (c : CurrencyCode) :
    (t.rateOf p now mode c).2.source.inner.Every P := by
  by_cases hc : c = .usd
  · rw [hc, rateOf_usd]
    exact h
  rw [rateOf_eq hc, after_source]
  split
  · exact every_fetch hP h now c
  · exact every_fetch hP h now c
  · exact every_fetch hP h now c
  · exact h

namespace Session

theorem every_setProviders {s : Session} (h : s.tiers.source.inner.Every P)
    {f : Provider → Provider} (hf : ∀ p, P p → P (f p)) :
    (s.setProviders f).2.tiers.source.inner.Every P := by
  intro p hp
  obtain ⟨q, hq, rfl⟩ := List.mem_map.1 hp
  exact hf q (h q hq)

theorem step_every (hP : Provider.Stable P) {s : Session} (h : s.tiers.source.inner.Every P)
    (a : Step) : (s.step a).2.tiers.source.inner.Every P := by
  cases hq : a.question? with
  | some q =>
    rw [step_tiers_of_question hq]
    exact Tiers.every_rateOf hP h s.policy s.now q.1 q.2
  | none =>
    cases a with
    | resolve | convert | list | request =>
      rcases step_tiers_of_none hq trivial with ht | ht
      · rw [ht]
        exact h
      · rw [ht]
        exact h
    | record code rate provider =>
      show (s.tiers.record s.now code rate provider).2.source.inner.Every P
      rcases s.tiers.record_cases s.now code rate provider with
        ⟨e, he⟩ | ⟨r, e, -, he⟩ | ⟨r, -, -, he⟩
      all_goals rw [he]; exact h
    | check tier mode c time => cases tier <;> exact h
    | fetch c => exact h.asked hP.asked c
    | setRate name c rate => exact every_setProviders h fun p ↦ hP.setRate p name c rate
    | setRecord name r => exact every_setProviders h fun p ↦ hP.setRecord p name r
    | setReply name reply => exact every_setProviders h fun p ↦ hP.setReply p name reply
    | _ => exact h

end Session

end TieredRates
