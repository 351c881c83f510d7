import TieredRates.Proofs.Record
import TieredRates.Source.Provider

namespace TieredRates

theorem Feed.record_eq_ok {f : Feed} {now : Instant} {r : RateRecord} (h : f.record now = .ok r) :
    r.target = f.currency ∧ r.capturedAt = now := by
  rw [Feed.record] at h
  obtain ⟨a, -, h⟩ := bind_eq_ok_iff.1 h
  obtain ⟨⟨date, rate⟩, -, h⟩ := bind_eq_ok_iff.1 h
  obtain ⟨r', hr', h⟩ := bind_eq_ok_iff.1 h
  obtain rfl : r'.withObservedOn (some date) = r := Except.ok.inj h
  obtain ⟨ht, hnow, -, -⟩ := RateRecord.make_eq_ok (mapError_eq_ok_iff.1 hr')
  exact ⟨ht, hnow⟩

namespace Provider

/-- Every canned record is filed under its own currency. -/
def Keyed : Provider → Prop
  | canned _ records => ∀ c r, records.get? c = some r → r.target = c
  | _ => True

/-- The provider makes its records itself. -/
def Stamps : Provider → Prop
  | canned .. => False
  | _ => True

variable {p : Provider} {now : Instant} {c : CurrencyCode} {r : RateRecord}

theorem Stamps.keyed (h : p.Stamps) : p.Keyed := by
  cases p with
  | canned name records => exact h.elim
  | _ => trivial

theorem Keyed.answer_target (hp : p.Keyed) (h : p.answer now c = .ok r) : r.target = c := by
  cases p with
  | fixed name rates =>
    simp only [answer] at h
    split at h
    · exact (RateRecord.make_eq_ok (mapError_eq_ok_iff.1 h)).1
    · simp at h
  | canned name records =>
    simp only [answer] at h
    split at h
    · next r' hr' =>
      obtain rfl := Except.ok.inj h
      exact hp c r' hr'
    · simp at h
  | feed f =>
    simp only [answer] at h
    split at h
    · next hc => exact (Feed.record_eq_ok (mapError_eq_ok_iff.1 h)).1.trans hc.symm
    · simp at h

theorem Stamps.answer_capturedAt (hp : p.Stamps) (h : p.answer now c = .ok r) :
    r.capturedAt = now := by
  cases p with
  | fixed name rates =>
    simp only [answer] at h
    split at h
    · exact (RateRecord.make_eq_ok (mapError_eq_ok_iff.1 h)).2.1
    · simp at h
  | canned name records => exact hp.elim
  | feed f =>
    simp only [answer] at h
    split at h
    · exact (Feed.record_eq_ok (mapError_eq_ok_iff.1 h)).2
    · simp at h

theorem Keyed.asked (hp : p.Keyed) (c : CurrencyCode) : (p.asked c).Keyed := by
  cases p with
  | feed f =>
    rw [Provider.asked]
    split <;> trivial
  | _ => exact hp

theorem Stamps.asked (hp : p.Stamps) (c : CurrencyCode) : (p.asked c).Stamps := by
  cases p with
  | feed f =>
    rw [Provider.asked]
    split <;> trivial
  | _ => exact hp

end Provider

namespace Registry

def Every (P : Provider → Prop) (g : Registry) : Prop := ∀ p ∈ g.providers, P p

variable {P : Provider → Prop} {g : Registry}

theorem Every.asked (hP : ∀ p c, P p → P (p.asked c)) (h : g.Every P) (c : CurrencyCode) :
    (g.asked c).Every P := by
  obtain ⟨ps⟩ := g
  have hps : ∀ p ∈ ps, P p := h
  show ∀ p ∈ askFirst c ps, P p
  induction ps with
  | nil => exact hps
  | cons p ps ih =>
    have hp : P p := hps p (by simp)
    have hrest : ∀ q ∈ ps, P q := fun q hq ↦ hps q (by simp [hq])
    rw [askFirst]
    split
    · exact List.forall_mem_cons.2 ⟨hP p c hp, hrest⟩
    · exact List.forall_mem_cons.2 ⟨hp, ih hrest hrest⟩

theorem Every.of_answer_ok (h : g.Every P) {now : Instant} {c : CurrencyCode} {r : RateRecord}
    (hr : g.answer now c = .ok r) : ∃ p, P p ∧ p.answer now c = .ok r := by
  rw [answer] at hr
  split at hr
  · next p hp => exact ⟨p, h p (List.mem_of_find?_eq_some hp), hr⟩
  · simp at hr

theorem Every.answer_target (h : g.Every Provider.Keyed) {now : Instant} {c : CurrencyCode}
    {r : RateRecord} (hr : g.answer now c = .ok r) : r.target = c := by
  obtain ⟨p, hp, hr⟩ := h.of_answer_ok hr
  exact hp.answer_target hr

theorem Every.answer_capturedAt (h : g.Every Provider.Stamps) {now : Instant}
    {c : CurrencyCode} {r : RateRecord} (hr : g.answer now c = .ok r) : r.capturedAt = now := by
  obtain ⟨p, hp, hr⟩ := h.of_answer_ok hr
  exact hp.answer_capturedAt hr

end Registry

end TieredRates
