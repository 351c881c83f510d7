import TieredRates.Proofs.Cache.Lookup
import TieredRates.Proofs.Resolution.Strict
import TieredRates.Proofs.Tier.Monitor

namespace TieredRates

/-- How a request fails. It may have arrived all the same. -/
structure Failure (ε : Type) where
  error : ε
  arrives : Bool

/-- A tier at the end of a line on which each kind of request may fail in a way of its own. -/
structure Faulty (ε α : Type) where
  inner : α
  getFailure : Option (Failure ε) := none
  putFailure : Option (Failure ε) := none
  listFailure : Option (Failure ε) := none

namespace Faulty

variable {ε α : Type}

def pass {β : Type} (m : Faulty ε α) (failure : Option (Failure ε))
    (request : α → Except ε β × α) : Except ε β × Faulty ε α :=
  match failure with
  | some f => (.error f.error, if f.arrives then { m with inner := (request m.inner).2 } else m)
  | none => ((request m.inner).1, { m with inner := (request m.inner).2 })

instance [SharedCache α] : SharedCache (Faulty CacheError α) where
  get m now c := m.pass m.getFailure fun k ↦ SharedCache.get k now c
  put m now r := m.pass m.putFailure fun k ↦ SharedCache.put k now r

instance [RateStore α] : RateStore (Faulty StoreError α) where
  get m c := m.pass m.getFailure fun s ↦ RateStore.get s c
  put m r := m.pass m.putFailure fun s ↦ RateStore.put s r
  list m := m.pass m.listFailure fun s ↦ RateStore.list s

theorem pass_fst {β : Type} (m : Faulty ε α) (failure : Option (Failure ε))
    (request : α → Except ε β × α) : (m.pass failure request).1 = match failure with
      | some f => .error f.error
      | none => (request m.inner).1 := by
  cases failure <;> rfl

theorem pass_snd {β : Type} (m : Faulty ε α) (failure : Option (Failure ε))
    (request : α → Except ε β × α) :
    (m.pass failure request).2 = m ∨
      (m.pass failure request).2 = { m with inner := (request m.inner).2 } := by
  cases failure with
  | none => exact .inr rfl
  | some f =>
    rw [pass]
    split
    · exact .inr rfl
    · exact .inl rfl

theorem getStore_store (m : Faulty StoreError Store) (c : CurrencyCode) :
    (RateStore.get m c).2 = m := by
  rcases m.pass_snd m.getFailure fun s ↦ RateStore.get s c with h | h
  · exact h
  · exact h.trans (by rw [Store.get_store])

theorem sheds_getCache (m : Faulty CacheError Cache) (now : Instant) (c : CurrencyCode) :
    m.inner.Sheds now (SharedCache.get m now c).2.inner := by
  rcases m.pass_snd m.getFailure fun k ↦ SharedCache.get k now c with h | h
  · exact (congrArg inner h) ▸ .refl m.inner now
  · exact (congrArg inner h) ▸ m.inner.sheds_get now c

end Faulty

namespace Tiers

section Ports

variable {κ σ π κ' σ' π' : Type} [SharedCache κ] [RateStore σ] [LiveSource π]
variable [SharedCache κ'] [RateStore σ'] [LiveSource π']
variable {t : Tiers κ σ π} {t' : Tiers κ' σ' π'} {p : Policy} {now : Instant} {mode : Mode}
variable {c : CurrencyCode} {code : String}

/-- Tiers of any two kinds that hold the same in the first tier and give the same when they are
asked for a currency. -/
structure AnswersAs (t : Tiers κ σ π) (t' : Tiers κ' σ' π') (now : Instant) (c : CurrencyCode) :
    Prop where
  first : t.first = t'.first
  cache : (SharedCache.get t.cache now c).1 = (SharedCache.get t'.cache now c).1
  store : (RateStore.get t.store c).1 = (RateStore.get t'.store c).1
  source : (LiveSource.fetch t.source now c).1 = (LiveSource.fetch t'.source now c).1

theorem rateOf_congr (hfirst : t.first = t'.first)
    (hcache : t.lookCache p now mode c = t'.lookCache p now mode c)
    (hstore : t.lookStore p now mode c = t'.lookStore p now mode c)
    (hlive : t.live now c = t'.live now c) :
    t.verdict p now mode c = t'.verdict p now mode c ∧
      (t.rateOf p now mode c).1 = (t'.rateOf p now mode c).1 ∧
      (t.rateOf p now mode c).2.first = (t'.rateOf p now mode c).2.first := by
  have hlook : t.lookFirst p now mode c = t'.lookFirst p now mode c := by
    rw [lookFirst, lookFirst, hfirst]
  have hverdict : t.verdict p now mode c = t'.verdict p now mode c := by
    rw [verdict, verdict, hlook, hcache, hstore, hlive]
  refine ⟨hverdict, ?_⟩
  by_cases hc : c = .usd
  · subst hc
    rw [rateOf_usd, rateOf_usd]
    exact ⟨rfl, hfirst⟩
  · rw [rateOf_eq hc, rateOf_eq hc, after_first, after_first, hverdict, hfirst]
    refine ⟨?_, rfl⟩
    cases t'.verdict p now mode c with
    | found o r => rfl
    | refused r => rfl
    | failed e => simp only [answer, seen, hlook, hcache, hstore]

theorem AnswersAs.rateOf (h : t.AnswersAs t' now c) :
    (t.rateOf p now mode c).1 = (t'.rateOf p now mode c).1 ∧
      (t.rateOf p now mode c).2.first = (t'.rateOf p now mode c).2.first := by
  refine (rateOf_congr h.first ?_ ?_ h.source).2
  · rw [lookCache, lookCache, h.cache]
  · rw [lookStore, lookStore, h.store]

theorem AnswersAs.resolve (h : ∀ c, t.AnswersAs t' now c) :
    (t.resolve p now mode code).1 = (t'.resolve p now mode code).1 ∧
      (t.resolve p now mode code).2.first = (t'.resolve p now mode code).2.first := by
  rw [Tiers.resolve, Tiers.resolve]
  cases CurrencyCode.parse code with
  | error e => exact ⟨rfl, (h .usd).first⟩
  | ok c => exact (h c).rateOf

/-- The question is refused, or it is answered without any record, by the first tier, or after the
source has failed. -/
inductive Quiet (t : Tiers κ σ π) (p : Policy) (now : Instant) (mode : Mode) (code : String) : Prop
  | refused {e : ResolveError} (h : (t.resolve p now mode code).1 = .error e)
  | base (h : CurrencyCode.parse code = .ok .usd)
  | first {c : CurrencyCode} {r : RateRecord} (hcode : CurrencyCode.parse code = .ok c)
      (h : t.lookFirst p now mode c = .hit r)
  | degraded {c : CurrencyCode} {e : SourceError} (hcode : CurrencyCode.parse code = .ok c)
      (h : t.verdict p now mode c = .failed e)

theorem rateOf_tiers_of_not_found (h : ∀ o r, t.verdict p now mode c ≠ .found o r) :
    (t.rateOf p now mode c).2 = t ∨ (t.rateOf p now mode c).2 = t.askSource now c := by
  by_cases hc : c = .usd
  · rw [hc, rateOf_usd]
    exact .inl rfl
  · rw [rateOf_eq hc]
    cases hv : t.verdict p now mode c with
    | found o r => exact absurd hv (h o r)
    | refused r => exact .inr rfl
    | failed e => exact .inr rfl

theorem Quiet.tiers (h : t.Quiet p now mode code) : (t.resolve p now mode code).2 = t ∨
    ∃ c, (t.resolve p now mode code).2 = t.askSource now c := by
  cases hcode : CurrencyCode.parse code with
  | error e =>
    rw [Tiers.resolve, hcode]
    exact .inl rfl
  | ok c =>
    have hrate : t.resolve p now mode code = t.rateOf p now mode c := resolve_eq_rateOf hcode
    rw [hrate]
    cases h with
    | refused h =>
      rw [hrate] at h
      refine (rateOf_tiers_of_not_found fun o r hv ↦ ?_).imp_right fun h ↦ ⟨c, h⟩
      by_cases hc : c = .usd
      · rw [hc, rateOf_usd] at h
        exact absurd h (by simp)
      · rw [rateOf_eq hc, hv] at h
        exact absurd h (by simp [answer])
    | base h =>
      obtain rfl := Except.ok.inj (hcode.symm.trans h)
      rw [rateOf_usd]
      exact .inl rfl
    | first hcode' h =>
      obtain rfl := Except.ok.inj (hcode.symm.trans hcode')
      by_cases hc : c = .usd
      · rw [hc, rateOf_usd]
        exact .inl rfl
      · rw [rateOf_eq_of_ne hc, h]
        exact .inl rfl
    | degraded hcode' h =>
      obtain rfl := Except.ok.inj (hcode.symm.trans hcode')
      exact (rateOf_tiers_of_not_found fun o r hv ↦ by simp [h] at hv).imp_right fun h ↦ ⟨c, h⟩

end Ports

variable {π : Type} [LiveSource π]

abbrev OnLines (π : Type) := Tiers (Faulty CacheError Cache) (Faulty StoreError Store) π

def withPuts (t : OnLines π) (cachePut : Option (Failure CacheError))
    (storePut : Option (Failure StoreError)) : OnLines π :=
  { t with
    cache := { t.cache with putFailure := cachePut }
    store := { t.store with putFailure := storePut } }

theorem withPuts_answersAs (t : OnLines π) (cachePut : Option (Failure CacheError))
    (storePut : Option (Failure StoreError)) (now : Instant) (c : CurrencyCode) :
    (t.withPuts cachePut storePut).AnswersAs t now c where
  first := rfl
  cache := (Faulty.pass_fst ..).trans
    (t.cache.pass_fst t.cache.getFailure fun k ↦ SharedCache.get k now c).symm
  store := (Faulty.pass_fst ..).trans
    (t.store.pass_fst t.store.getFailure fun s ↦ RateStore.get s c).symm
  source := rfl

/-- A refusal, and an answer for want of anything fresh, leave the first tier and the store alone,
and the second tier gives for every currency what it would have given. Whether a record could be
written into the tiers shows neither in the answer nor in the first tier. -/
theorem resolve_frame (t : OnLines π) (p : Policy) (now : Instant) (mode : Mode) (code : String) :
    (t.Quiet p now mode code →
      (t.resolve p now mode code).2.first = t.first ∧
      (t.resolve p now mode code).2.store = t.store ∧
      t.cache.inner.Sheds now (t.resolve p now mode code).2.cache.inner ∧
      ∀ later, now ≤ later → ∀ d,
        (SharedCache.get (t.resolve p now mode code).2.cache.inner later d).1 =
          (SharedCache.get t.cache.inner later d).1) ∧
    ∀ cachePut storePut,
      ((t.withPuts cachePut storePut).resolve p now mode code).1 =
        (t.resolve p now mode code).1 ∧
      ((t.withPuts cachePut storePut).resolve p now mode code).2.first =
        (t.resolve p now mode code).2.first := by
  refine ⟨fun hquiet ↦ ?_, fun cachePut storePut ↦
    AnswersAs.resolve fun c ↦ t.withPuts_answersAs cachePut storePut now c⟩
  have hsheds : t.cache.inner.Sheds now (t.resolve p now mode code).2.cache.inner := by
    rcases hquiet.tiers with h | ⟨c, h⟩
    · rw [h]
      exact .refl t.cache.inner now
    · rw [h]
      exact t.cache.sheds_getCache now c
  have hrest : (t.resolve p now mode code).2.first = t.first ∧
      (t.resolve p now mode code).2.store = t.store := by
    rcases hquiet.tiers with h | ⟨c, h⟩
    · rw [h]
      exact ⟨rfl, rfl⟩
    · rw [h]
      exact ⟨rfl, t.store.getStore_store c⟩
  exact ⟨hrest.1, hrest.2, hsheds, fun later hlater d ↦ hsheds.get_eq hlater⟩

end Tiers

def lineTiers : Tiers.OnLines Registry where
  first := FirstTier.cache ∅ (wonRecord "bank" 300 (midnight 7)) (midnight 7)
  cache := { inner := .timed ((TimedCache.empty (Span.ofSeconds 60)).put (midnight 7)
    (wonRecord "bank" 300 (midnight 7))) }
  store := { inner := .table (Table.insert ∅ won (wonRecord "bank" 340 (midnight 8))) }
  source := ⟨[]⟩

theorem resolve_frame_won :
    (lineTiers.resolve bankPolicy (midnight 20) .strict " krw").1 =
        .error (.stale won (midnight 8)) ∧
      lineTiers.Quiet bankPolicy (midnight 20) .strict " krw" ∧
      (lineTiers.resolve bankPolicy (midnight 20) .strict " krw").2.first = lineTiers.first ∧
      (lineTiers.resolve bankPolicy (midnight 20) .strict " krw").2.store = lineTiers.store ∧
      midnight 20 ≤ midnight 21 ∧
      (SharedCache.get (lineTiers.resolve bankPolicy (midnight 20) .strict " krw").2.cache.inner
          (midnight 21) won).1 =
        (SharedCache.get lineTiers.cache.inner (midnight 21) won).1 := by
  have hrefused : (lineTiers.resolve bankPolicy (midnight 20) .strict " krw").1 =
      .error (.stale won (midnight 8)) := rfl
  have hlater : midnight 20 ≤ midnight 21 := by decide +kernel
  have hquiet : lineTiers.Quiet bankPolicy (midnight 20) .strict " krw" := .refused hrefused
  obtain ⟨hfirst, hstore, -, hcache⟩ :=
    (Tiers.resolve_frame lineTiers bankPolicy (midnight 20) .strict " krw").1 hquiet
  exact ⟨hrefused, hquiet, hfirst, hstore, hlater, hcache _ hlater won⟩

end TieredRates
