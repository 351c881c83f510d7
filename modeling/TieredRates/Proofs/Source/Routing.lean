import TieredRates.Proofs.Resolution.Strict
import TieredRates.Proofs.Source.Provider

namespace TieredRates

namespace Observation

theorem isPositive_of_rate? {o : Observation} {date : Date} {rate : Decimal}
    (h : o.rate? date = .ok rate) : rate.IsPositive := by
  rw [rate?] at h
  split at h
  · next d _ hd =>
    obtain rfl := Except.ok.inj h
    simpa using List.find?_some hd
  · simp at h
  · simp at h

theorem isPositive_of_select {os : List Observation} {date : Date} {rate : Decimal}
    (h : select os = .ok (date, rate)) : rate.IsPositive := by
  cases os with
  | nil => exact nomatch h
  | cons o os =>
    simp only [select] at h
    cases hlatest : latest? (o :: os) with
    | none =>
      rw [hlatest] at h
      exact nomatch h
    | some found =>
      rw [hlatest] at h
      cases hr : found.2.rate? found.1 with
      | error e =>
        simp only [hr] at h
        exact nomatch h
      | ok d =>
        simp only [hr] at h
        obtain ⟨-, rfl⟩ := Prod.mk.inj (Except.ok.inj h)
        exact isPositive_of_rate? hr

end Observation

namespace Feed

variable {f : Feed} {now : Instant} {r : RateRecord} {date : Date} {rate : Decimal}

/-- What the request to the feed brings back, if it gets there and is answered. -/
def delivered? (f : Feed) : Option (Nat × String) :=
  match f.sendableAddress, f.reply with
  | .ok _, .answered status body => some (status, body)
  | _, _ => none

/-- The feed answers with a status of success and an array of observations, and the latest of them
has this day and this rate. -/
def Publishes (f : Feed) (date : Date) (rate : Decimal) : Prop :=
  ∃ status body os, f.delivered? = some (status, body) ∧ (200 ≤ status ∧ status < 300) ∧
    Observation.listOfJson body = .ok os ∧ Observation.select os = .ok (date, rate)

structure Quotes (f : Feed) (now : Instant) (date : Date) (rate : Decimal) (r : RateRecord) :
    Prop where
  target : r.target = f.currency
  rate : r.rate = rate
  capturedAt : r.capturedAt = now
  provider : r.provider = f.id
  observedOn : r.observedOn = some date

theorem rate_eq_ok_iff {reply : Reply} : reply.rate = .ok (date, rate) ↔
    ∃ status body os, reply = .answered status body ∧ (200 ≤ status ∧ status < 300) ∧
      Observation.listOfJson body = .ok os ∧ Observation.select os = .ok (date, rate) := by
  cases reply with
  | unreachable => simp [Reply.rate]
  | dropped => simp [Reply.rate]
  | answered status body =>
    simp only [Reply.rate, Reply.answered.injEq]
    constructor
    · intro h
      split at h
      · next hstatus =>
        split at h
        · simp at h
        · next os hos => exact ⟨status, body, os, ⟨rfl, rfl⟩, hstatus, hos, mapError_eq_ok_iff.1 h⟩
      · simp at h
    · rintro ⟨_, _, os, ⟨rfl, rfl⟩, hstatus, hos, hselect⟩
      rw [if_pos hstatus, hos]
      exact mapError_eq_ok_iff.2 hselect

theorem publishes_iff : f.Publishes date rate ↔
    (∃ a, f.sendableAddress = .ok a) ∧ f.reply.rate = .ok (date, rate) := by
  rw [rate_eq_ok_iff, Publishes, delivered?]
  cases f.sendableAddress with
  | error e => simp
  | ok a => cases f.reply <;> simp

theorem Publishes.isPositive (h : f.Publishes date rate) : rate.IsPositive := by
  obtain ⟨_, _, os, -, -, -, hselect⟩ := h
  exact Observation.isPositive_of_select hselect

theorem record_eq_ok_iff :
    f.record now = .ok r ↔ ∃ date rate, f.Publishes date rate ∧ f.Quotes now date rate r := by
  constructor
  · intro h
    rw [Feed.record] at h
    obtain ⟨a, ha, h⟩ := bind_eq_ok_iff.1 h
    obtain ⟨⟨date, rate⟩, hrate, h⟩ := bind_eq_ok_iff.1 h
    obtain ⟨r', hmake, h⟩ := bind_eq_ok_iff.1 h
    obtain rfl : r'.withObservedOn (some date) = r := Except.ok.inj h
    obtain ⟨htarget, hnow, hprovider, hr⟩ := RateRecord.make_eq_ok (mapError_eq_ok_iff.1 hmake)
    exact ⟨date, rate, publishes_iff.2 ⟨⟨a, ha⟩, hrate⟩, htarget, hr, hnow, hprovider, rfl⟩
  · rintro ⟨date, rate, hp, hq⟩
    obtain ⟨⟨a, ha⟩, hrate⟩ := publishes_iff.1 hp
    have hmake : RateRecord.make f.currency rate f.id now = .ok r.undated := by
      rw [← hq.target, ← hq.rate, ← hq.provider, ← hq.capturedAt]
      exact r.make_self
    have hdate : r.undated.withObservedOn (some date) = r := by
      rw [← hq.observedOn]
      rfl
    rw [Feed.record, bind_eq_ok_iff]
    refine ⟨a, ha, bind_eq_ok_iff.2 ⟨(date, rate), hrate, bind_eq_ok_iff.2 ⟨r.undated, ?_, ?_⟩⟩⟩
    · exact mapError_eq_ok_iff.2 hmake
    · exact congrArg Except.ok hdate

theorem Publishes.exists_record (h : f.Publishes date rate) (hf : f.currency ≠ .usd)
    (now : Instant) : ∃ r, f.record now = .ok r ∧ f.Quotes now date rate r := by
  let r : RateRecord := {
    target := f.currency, rate, capturedAt := now, provider := f.id, observedOn := some date
    target_ne := hf
    rate_pos := h.isPositive }
  have hr : f.Quotes now date rate r := ⟨rfl, rfl, rfl, rfl, rfl⟩
  exact ⟨r, record_eq_ok_iff.2 ⟨date, rate, h, hr⟩, hr⟩

end Feed

namespace Provider

variable {p : Provider} {now : Instant} {c : CurrencyCode} {r : RateRecord}

theorem Stamps.answer_provider (hp : p.Stamps) (h : p.answer now c = .ok r) :
    r.provider = p.name := by
  cases p with
  | fixed name rates =>
    simp only [answer] at h
    split at h
    · exact (RateRecord.make_eq_ok (mapError_eq_ok_iff.1 h)).2.2.1
    · simp at h
  | canned name records => exact hp.elim
  | feed f =>
    simp only [answer] at h
    split at h
    · obtain ⟨_, _, -, hq⟩ := Feed.record_eq_ok_iff.1 (mapError_eq_ok_iff.1 h)
      exact hq.provider
    · simp at h

theorem answer_ne_unconfigured (hp : p.supports c = true) (d : CurrencyCode) :
    p.answer now c ≠ .error (.unconfigured d) := by
  cases p with
  | fixed name rates =>
    obtain ⟨rate, hrate⟩ := Option.isSome_iff_exists.1 hp
    simp only [answer, hrate]
    exact mapError_ne_error fun e ↦ by simp
  | canned name records =>
    obtain ⟨r, hr⟩ := Option.isSome_iff_exists.1 hp
    simp [answer, hr]
  | feed f =>
    have hc : c = f.currency := of_decide_eq_true hp
    simp only [answer, if_pos hc]
    exact mapError_ne_error fun e ↦ by simp

theorem exists_fault_of_not_publishes {f : Feed} (h : ¬ ∃ date rate, f.Publishes date rate) :
    ∃ fault, (feed f).answer now f.currency = .error (.failed f.currency fault) := by
  cases hr : f.record now with
  | ok r =>
    obtain ⟨date, rate, hp, -⟩ := Feed.record_eq_ok_iff.1 hr
    exact absurd ⟨date, rate, hp⟩ h
  | error fault =>
    refine ⟨fault, ?_⟩
    simp only [answer, if_true, hr]
    rfl

end Provider

namespace Registry

variable {g : Registry} {p : Provider} {before after : List Provider} {now : Instant}
variable {c : CurrencyCode} {r : RateRecord}

/-- The providers before `p` do not support the currency, and `p` does. -/
structure Routes (g : Registry) (c : CurrencyCode) (before : List Provider) (p : Provider)
    (after : List Provider) : Prop where
  split : g.providers = before ++ p :: after
  skips : ∀ q ∈ before, q.supports c = false
  supports : p.supports c = true

theorem askFirst_append (h : ∀ q ∈ before, q.supports c = false) (hp : p.supports c = true) :
    askFirst c (before ++ p :: after) = before ++ p.asked c :: after := by
  induction before with
  | nil => exact if_pos hp
  | cons q before ih =>
    have hq : ¬ q.supports c = true := by simp [h q]
    have hrest : ∀ q ∈ before, q.supports c = false := fun q hq ↦ h q (by simp [hq])
    rw [List.cons_append, askFirst, if_neg hq, ih hrest, List.cons_append]

theorem Routes.route? (h : g.Routes c before p after) : g.route? c = some p := by
  refine List.find?_eq_some_iff_append.2 ⟨h.supports, before, after, h.split, ?_⟩
  intro q hq
  simp [h.skips q hq]

theorem Routes.fetch (h : g.Routes c before p after) (now : Instant) :
    LiveSource.fetch g now c = (p.answer now c, ⟨before ++ p.asked c :: after⟩) := by
  have hanswer : g.answer now c = p.answer now c := by
    rw [answer, h.route?]
  have hasked : g.asked c = ⟨before ++ p.asked c :: after⟩ := by
    rw [asked, h.split, askFirst_append h.skips h.supports]
  exact Prod.ext hanswer hasked

theorem askFirst_of_not_supports {ps : List Provider} (h : ∀ q ∈ ps, q.supports c = false) :
    askFirst c ps = ps := by
  induction ps with
  | nil => rfl
  | cons q ps ih =>
    have hq : ¬ q.supports c = true := by simp [h q]
    rw [askFirst, if_neg hq, ih fun q hq ↦ h q (by simp [hq])]

theorem fetch_of_not_supports (h : ∀ q ∈ g.providers, q.supports c = false) (now : Instant) :
    LiveSource.fetch g now c = (.error (.unconfigured c), g) := by
  have hroute : g.route? c = none := List.find?_eq_none.2 fun q hq ↦ by simp [h q hq]
  have hanswer : g.answer now c = .error (.unconfigured c) := by
    rw [answer, hroute]
  have hasked : g.asked c = g := by
    rw [asked, askFirst_of_not_supports h]
  exact Prod.ext hanswer hasked

theorem exists_routes (h : ¬ ∀ q ∈ g.providers, q.supports c = false) :
    ∃ before p after, g.Routes c before p after := by
  cases hroute : g.route? c with
  | none =>
    refine absurd ?_ h
    intro q hq
    simpa using List.find?_eq_none.1 hroute q hq
  | some p =>
    obtain ⟨hp, before, after, hsplit, hskips⟩ := List.find?_eq_some_iff_append.1 hroute
    exact ⟨before, p, after, hsplit, fun q hq ↦ by simpa using hskips q hq, hp⟩

theorem fetch_eq_unconfigured_iff : (LiveSource.fetch g now c).1 = .error (.unconfigured c) ↔
    ∀ q ∈ g.providers, q.supports c = false := by
  constructor
  · intro h
    refine Classical.byContradiction fun hsome ↦ ?_
    obtain ⟨before, p, after, hroutes⟩ := exists_routes hsome
    rw [hroutes.fetch now] at h
    exact p.answer_ne_unconfigured hroutes.supports c h
  · intro h
    rw [fetch_of_not_supports h now]

/-- A fetch is the answer of the first provider that supports the currency, whatever comes of it,
and no other one is asked. A feed of its own currency gives what it publishes, and without that it
fails. -/
theorem fetch_routed (hg : g.Every Provider.Stamps) (now : Instant) (c : CurrencyCode) :
    (∀ before p after, g.Routes c before p after →
      LiveSource.fetch g now c = (p.answer now c, ⟨before ++ p.asked c :: after⟩) ∧
      ∀ r, p.answer now c = .ok r → r.target = c ∧ r.rate.IsPositive ∧ r.provider = p.name ∧
        r.capturedAt = now) ∧
    ((∃ before p after, g.Routes c before p after) ∨
      LiveSource.fetch g now c = (.error (.unconfigured c), g)) ∧
    ((LiveSource.fetch g now c).1 = .error (.unconfigured c) ↔
      ∀ q ∈ g.providers, q.supports c = false) ∧
    ∀ f : Feed, f.currency ≠ .usd →
      (∀ date rate, f.Publishes date rate →
        ∃ r, (Provider.feed f).answer now f.currency = .ok r ∧ f.Quotes now date rate r) ∧
      ((¬ ∃ date rate, f.Publishes date rate) →
        ∃ fault, (Provider.feed f).answer now f.currency = .error (.failed f.currency fault)) := by
  refine ⟨?_, ?_, fetch_eq_unconfigured_iff, ?_⟩
  · intro before p after hroutes
    have hp : p.Stamps := hg p (by rw [hroutes.split]; simp)
    refine ⟨hroutes.fetch now, fun r hr ↦ ?_⟩
    exact ⟨hp.keyed.answer_target hr, r.rate_pos, hp.answer_provider hr, hp.answer_capturedAt hr⟩
  · by_cases h : ∀ q ∈ g.providers, q.supports c = false
    · exact .inr (fetch_of_not_supports h now)
    · exact .inl (exists_routes h)
  · intro f hf
    refine ⟨fun date rate hp ↦ ?_, Provider.exists_fault_of_not_publishes⟩
    obtain ⟨r, hr, hq⟩ := hp.exists_record hf now
    refine ⟨r, ?_, hq⟩
    simp only [Provider.answer, if_true, hr]
    rfl

def wonFeed : Feed where
  currency := won
  id := "central-bank"
  path := "/v1/exchange"
  key := none
  reply := .answered 200 ("[\x7b\"date\":\"February-18-2026\",\"rate\":\"1,338\"\x7d," ++
    "\x7b\"date\":\"2026-01-26\",\"rate\":\"1418\"\x7d]")
  requests := []

def wonRegistry : Registry :=
  ⟨[.development, .feed wonFeed,
    .fixed "desk" (Table.insert ∅ won (wonRecord "desk" 400 (midnight 9)).rate)]⟩

theorem fetch_routed_won :
    wonRegistry.Every Provider.Stamps ∧ ∃ r,
      LiveSource.fetch wonRegistry (midnight 9) won =
        (.ok r, ⟨[.development, .feed { wonFeed with requests := ["GET /v1/exchange"] },
          .fixed "desk" (Table.insert ∅ won (wonRecord "desk" 400 (midnight 9)).rate)]⟩) ∧
      wonFeed.Quotes (midnight 9) (midnight 20502).date
        (wonRecord "central-bank" 338 (midnight 9)).rate r := by
  have hg : wonRegistry.Every Provider.Stamps := by
    intro p hp
    simp only [wonRegistry, List.mem_cons, List.not_mem_nil, or_false] at hp
    rcases hp with rfl | rfl | rfl
    all_goals trivial
  have hroutes : wonRegistry.Routes won [.development] (.feed wonFeed)
      [.fixed "desk" (Table.insert ∅ won (wonRecord "desk" 400 (midnight 9)).rate)] := by
    refine ⟨rfl, fun q hq ↦ ?_, by decide +kernel⟩
    obtain rfl := List.mem_singleton.1 hq
    decide +kernel
  have hpublishes : wonFeed.Publishes (midnight 20502).date
      (wonRecord "central-bank" 338 (midnight 9)).rate := by
    have haddress : ∃ a, wonFeed.sendableAddress = .ok a := by
      refine ⟨_, rfl⟩
    have hrate : wonFeed.reply.rate.toOption =
        some ((midnight 20502).date, (wonRecord "central-bank" 338 (midnight 9)).rate) := by
      decide +kernel
    refine Feed.publishes_iff.2 ⟨haddress, ?_⟩
    cases hreply : wonFeed.reply.rate with
    | error e => simp [hreply, Except.toOption] at hrate
    | ok found => simpa [hreply, Except.toOption] using hrate
  refine ⟨hg, ?_⟩
  have h := fetch_routed hg (midnight 9) won
  obtain ⟨r, hr, hq⟩ := (h.2.2.2 wonFeed (by decide)).1 _ _ hpublishes
  refine ⟨r, ?_, hq⟩
  rw [(h.1 _ _ _ hroutes).1]
  refine Prod.ext hr ?_
  rfl

end Registry

end TieredRates
