import TieredRates.Record

namespace TieredRates

section Except

variable {ε ε' α β : Type}

theorem bind_eq_ok_iff {x : Except ε α} {f : α → Except ε β} {b : β} :
    x >>= f = .ok b ↔ ∃ a, x = .ok a ∧ f a = .ok b := by
  cases x with
  | error e => simp [bind, Except.bind]
  | ok a => simp [bind, Except.bind]

theorem map_eq_ok_iff {f : α → β} {x : Except ε α} {b : β} :
    x.map f = .ok b ↔ ∃ a, x = .ok a ∧ f a = b := by
  cases x <;> simp [Except.map]

theorem mapError_eq_ok_iff {f : ε → ε'} {x : Except ε α} {a : α} :
    x.mapError f = .ok a ↔ x = .ok a := by
  cases x with
  | error e => exact ⟨nofun, nofun⟩
  | ok b =>
    constructor
    · intro h
      exact congrArg Except.ok (Except.ok.inj h)
    · intro h
      exact congrArg Except.ok (Except.ok.inj h)

theorem mapError_ne_error {f : ε → ε'} {x : Except ε α} {e : ε'} (h : ∀ e', f e' ≠ e) :
    x.mapError f ≠ .error e := by
  cases x with
  | error e' => exact fun hx ↦ h e' (Except.error.inj hx)
  | ok a => exact nofun

theorem toOption_eq_some_iff {x : Except ε α} {a : α} : x.toOption = some a ↔ x = .ok a := by
  cases x <;> simp [Except.toOption]

end Except

namespace RateRecord

variable {r : RateRecord}

theorem make_eq_ok {c : CurrencyCode} {rate : Decimal} {provider : String} {now : Instant}
    (h : make c rate provider now = .ok r) :
    r.target = c ∧ r.capturedAt = now ∧ r.provider = provider ∧ r.rate = rate := by
  rw [make] at h
  split at h
  · simp at h
  split at h
  · obtain rfl := Except.ok.inj h
    exact ⟨rfl, rfl, rfl, rfl⟩
  · simp at h

theorem FreshWithin.since_le {window : Int} {now : Instant} (h : r.FreshWithin window now) :
    now.since r.capturedAt ≤ window :=
  Int.le_trans (Int.le_max_right 0 _) h

/-- Same rate, provider and time; the day of the quotation is left out. -/
structure Agrees (r r' : RateRecord) : Prop where
  rate : r.rate = r'.rate
  provider : r.provider = r'.provider
  capturedAt : r.capturedAt = r'.capturedAt

theorem Agrees.refl (r : RateRecord) : r.Agrees r := ⟨rfl, rfl, rfl⟩

theorem Agrees.trans {r₁ r₂ r₃ : RateRecord} (h : r₁.Agrees r₂) (h' : r₂.Agrees r₃) : r₁.Agrees r₃ :=
  ⟨h.rate.trans h'.rate, h.provider.trans h'.provider, h.capturedAt.trans h'.capturedAt⟩

def undated (r : RateRecord) : RateRecord := r.withObservedOn none

theorem make_self (r : RateRecord) :
    make r.target r.rate r.provider r.capturedAt = .ok r.undated := by
  rw [make, dif_neg r.target_ne, dif_pos r.rate_pos]
  rfl

theorem undated_of_make {c : CurrencyCode} {rate : Decimal} {provider : String} {now : Instant}
    (h : make c rate provider now = .ok r) : r.undated = r := by
  rw [make] at h
  split at h
  · simp at h
  split at h
  · obtain rfl := Except.ok.inj h
    rfl
  · simp at h

theorem undated_agrees (r : RateRecord) : r.undated.Agrees r := ⟨rfl, rfl, rfl⟩

section Notes

/-- The record of a rate that is given now for what a text names. -/
structure Notes (r : RateRecord) (code : String) (rate : Decimal) (provider : String)
    (now : Instant) : Prop where
  target : CurrencyCode.parse code = .ok r.target
  rate : r.rate = rate
  provider : r.provider = provider
  capturedAt : r.capturedAt = now
  observedOn : r.observedOn = none

variable {r r' : RateRecord} {code provider : String} {rate : Decimal} {now : Instant}

theorem Notes.undated (h : r.Notes code rate provider now) : r.undated = r := by
  obtain ⟨target, rate, capturedAt, provider, observedOn, _, _⟩ := r
  obtain rfl : observedOn = none := h.observedOn
  rfl

theorem notes_of_make
    (h : (CurrencyCode.parse code >>= fun c ↦ make c rate provider now) = .ok r) :
    r.Notes code rate provider now := by
  obtain ⟨c, hc, hmake⟩ := bind_eq_ok_iff.1 h
  obtain ⟨rfl, hnow, hprovider, hrate⟩ := make_eq_ok hmake
  exact ⟨hc, hrate, hprovider, hnow, congrArg observedOn (undated_of_make hmake).symm⟩

theorem Notes.make (h : r.Notes code rate provider now) :
    (CurrencyCode.parse code >>= fun c ↦ make c rate provider now) = .ok r := by
  obtain ⟨htarget, rfl, rfl, rfl, -⟩ := id h
  rw [htarget, ← h.undated]
  exact r.make_self

theorem exists_notes_iff : (∃ r : RateRecord, r.Notes code rate provider now) ↔
    (∃ c, CurrencyCode.parse code = .ok c ∧ c ≠ .usd) ∧ rate.IsPositive := by
  constructor
  · rintro ⟨r, h⟩
    exact ⟨⟨r.target, h.target, r.target_ne⟩, h.rate ▸ r.rate_pos⟩
  · rintro ⟨⟨c, hcode, hc⟩, hrate⟩
    exact ⟨⟨c, rate, now, provider, none, hc, hrate⟩, hcode, rfl, rfl, rfl, rfl⟩

end Notes

end RateRecord

end TieredRates
