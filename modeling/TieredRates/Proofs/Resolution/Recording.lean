import TieredRates.Proofs.Resolution.Repair
import TieredRates.Proofs.Tier.Separation

namespace TieredRates

namespace Cache

def Holds : Cache → RateRecord → Prop
  | table t, r => t.get? r.target = some r
  | timed t, r => (t.entries.get? r.target).map (·.record) = some r
  | remote k, r => k.Holds r.target r

variable {k : Cache} {now : Instant} {r : RateRecord}

theorem holds_put (h : r.undated = r) : (SharedCache.put k now r).2.Holds r := by
  cases k with
  | table t => exact t.get?_insert_self r.target r
  | timed t => exact congrArg (Option.map _) (t.entries.get?_insert_self r.target _)
  | remote k =>
    have hholds : (k.put now r).Holds r.target r.undated := RemoteCache.holds_put
    rw [h] at hholds
    exact hholds

end Cache

namespace Faulty

variable {ε α : Type} {m : Faulty ε α} {request : α → Except ε Unit × α}

/-- A put that fails has not arrived. -/
def Clean (m : Faulty ε α) : Prop := ∀ f, m.putFailure = some f → f.arrives = false

/-- A put arrives, whether or not it fails. -/
def PutsArrive (m : Faulty ε α) : Prop := ∀ f, m.putFailure = some f → f.arrives = true

theorem inner_put_of_ok (h : (m.pass m.putFailure request).1 = .ok ()) :
    (m.pass m.putFailure request).2.inner = (request m.inner).2 := by
  cases hfailure : m.putFailure with
  | none => rfl
  | some f =>
    rw [hfailure] at h
    exact nomatch h

theorem putsArrive_of_ok (h : (m.pass m.putFailure request).1 = .ok ()) : m.PutsArrive := by
  intro f hf
  rw [hf] at h
  exact nomatch h

theorem inner_put_of_error {e : ε} (hclean : m.Clean) (hrequest : (request m.inner).1 = .ok ())
    (h : (m.pass m.putFailure request).1 = .error e) :
    (m.pass m.putFailure request).2.inner = m.inner := by
  cases hfailure : m.putFailure with
  | none =>
    rw [hfailure, pass_fst, hrequest] at h
    exact nomatch h
  | some f =>
    rw [pass, hclean f hfailure]
    rfl

end Faulty

namespace Monitored

abbrev Line (ε α : Type) := Monitored (Faulty ε α)

section Line

variable {ε α : Type} {m : Line ε α} {kind : Outage → Bool} {e e' : ε}
variable {request : α → Except ε Unit × α}

def PutsArrive (m : Line ε α) : Prop := m.down.puts = false ∧ m.inner.PutsArrive

theorem putsArrive_of_ok
    (h : (m.countPut.pass Outage.puts e fun l ↦ l.pass l.putFailure request).1 = .ok ()) :
    m.PutsArrive := by
  obtain ⟨hup, hline⟩ := (pass_eq_ok_iff _ _ _ _).1 h
  exact ⟨hup, Faulty.putsArrive_of_ok hline⟩

theorem far_put_of_ok (h : (m.pass kind e fun l ↦ l.pass l.putFailure request).1 = .ok ()) :
    (m.pass kind e fun l ↦ l.pass l.putFailure request).2.inner.inner = (request m.inner.inner).2 := by
  obtain ⟨hup, hline⟩ := (pass_eq_ok_iff _ _ _ _).1 h
  rw [inner_pass, hup]
  exact Faulty.inner_put_of_ok hline

theorem far_put_of_error (hclean : m.inner.Clean)
    (hrequest : (request m.inner.inner).1 = .ok ())
    (h : (m.pass kind e fun l ↦ l.pass l.putFailure request).1 = .error e') :
    (m.pass kind e fun l ↦ l.pass l.putFailure request).2.inner.inner = m.inner.inner := by
  rw [inner_pass]
  split
  · rfl
  · next hup =>
    rw [pass, if_neg hup] at h
    exact Faulty.inner_put_of_error hclean hrequest h

theorem far_put_cases : (m.pass kind e fun l ↦ l.pass l.putFailure request).2.inner.inner =
      m.inner.inner ∨
    (m.pass kind e fun l ↦ l.pass l.putFailure request).2.inner.inner = (request m.inner.inner).2 := by
  rcases m.inner_pass_cases kind e fun l ↦ l.pass l.putFailure request with h | h
  · exact .inl (congrArg Faulty.inner h)
  · rcases m.inner.pass_snd m.inner.putFailure request with h' | h'
    · exact .inl (congrArg Faulty.inner (h.trans h'))
    · exact .inr (congrArg Faulty.inner (h.trans h'))

end Line

end Monitored

namespace Tiers

variable {π : Type}

abbrev Apart (π : Type) :=
  Tiers (Monitored.Line CacheError Cache) (Monitored.Line StoreError Store) π

abbrev farCache (t : Apart π) : Cache := t.cache.inner.inner

abbrev farStore (t : Apart π) : Store := t.store.inner.inner

/-- All that is kept is the same, and the second tier has not even been asked. -/
structure Untouched (t t' : Apart π) : Prop where
  first : t'.first = t.first
  cache : t'.cache = t.cache
  store : t'.farStore = t.farStore
  source : t'.source = t.source

/-- A record is in every tier, or in all but the second one if that has not taken it. Nothing else
is different. -/
structure Recorded (t t' : Apart π) (now : Instant) (r : RateRecord) : Prop where
  first : t'.first.get? r.target = some ⟨r, now⟩
  cache : (SharedCache.put t.cache now r).1 = .ok () → t'.farCache.Holds r ∧
    ∀ later, (SharedCache.get t'.farCache later r.target).1 =
      .ok (if t.farCache.Remembers now later then some r else none)
  cache_failed : ∀ e, (SharedCache.put t.cache now r).1 = .error e → t.cache.inner.Clean →
    t'.farCache = t.farCache
  store : t.farStore.Keeps r → t'.farStore.record? r.target = some r
  source : t'.source = t.source
  others : ∀ c, c ≠ r.target → t'.first.get? c = t.first.get? c ∧
    t'.farCache.slice c = t.farCache.slice c ∧ t'.farStore.slice c = t.farStore.slice c

variable {t : Apart π} {now : Instant} {r : RateRecord} {c : CurrencyCode}

theorem farCache_put_of_ok (h : (SharedCache.put t.cache now r).1 = .ok ()) :
    (t.fillCache now r).farCache = (SharedCache.put t.farCache now r).2 :=
  Monitored.far_put_of_ok (m := t.cache.countPut) h

theorem farCache_put_of_error {e : CacheError} (hclean : t.cache.inner.Clean)
    (h : (SharedCache.put t.cache now r).1 = .error e) :
    (t.fillCache now r).farCache = t.farCache :=
  Monitored.far_put_of_error (m := t.cache.countPut) hclean (Cache.put_answer _ now r) h

theorem farCache_put_cases : (t.fillCache now r).farCache = t.farCache ∨
    (t.fillCache now r).farCache = (SharedCache.put t.farCache now r).2 :=
  Monitored.far_put_cases (m := t.cache.countPut)

theorem slice_farCache_put (hc : c ≠ r.target) :
    (t.fillCache now r).farCache.slice c = t.farCache.slice c := by
  rcases t.farCache_put_cases with h | h
  · rw [h]
  · rw [h, Cache.slice_put_of_ne hc.symm]

theorem farStore_put_of_ok (h : (RateStore.put t.store r).1 = .ok ()) :
    (t.persist r).farStore = (RateStore.put t.farStore r).2 :=
  Monitored.far_put_of_ok (m := t.store.countPut) h

theorem farStore_put_of_error {e : StoreError} (hclean : t.store.inner.Clean)
    (h : (RateStore.put t.store r).1 = .error e) : (t.persist r).farStore = t.farStore :=
  Monitored.far_put_of_error (m := t.store.countPut) hclean (Store.put_answer _ r) h

section Record

variable {code provider : String} {rate : Decimal}

theorem untouched_of_error {e : RecordError} (hclean : t.store.inner.Clean)
    (h : (t.record now code rate provider).1 = .error e) :
    t.Untouched (t.record now code rate provider).2 := by
  by_cases hnotes : ∃ r : RateRecord, r.Notes code rate provider now
  · obtain ⟨r, hr⟩ := hnotes
    cases hput : (RateStore.put t.store r).1 with
    | error e' =>
      rw [record_of_refused hr hput]
      exact ⟨rfl, rfl, farStore_put_of_error hclean hput, rfl⟩
    | ok u =>
      rw [record_of_taken hr hput] at h
      exact nomatch h
  · obtain ⟨e', he'⟩ := record_of_not_notes (t := t) (not_exists.1 hnotes)
    rw [he']
    exact ⟨rfl, rfl, rfl, rfl⟩

theorem recorded_of_notes (h : r.Notes code rate provider now)
    (hput : (RateStore.put t.store r).1 = .ok ())
    (hrange : t.cache.PutsArrive → t.farCache.InRange now) :
    t.Recorded ((t.persist r).fill now r) now r where
  first := (FirstTier.get?_cache t.first r now r.target).trans (if_pos rfl)
  cache := by
    intro hcache
    have hfar : ((t.persist r).fill now r).farCache = (SharedCache.put t.farCache now r).2 :=
      farCache_put_of_ok hcache
    rw [hfar]
    refine ⟨Cache.holds_put h.undated, ?_⟩
    intro later
    rw [Cache.get_put_self (hrange (Monitored.putsArrive_of_ok hcache)),
      Cache.kept_of_undated h.undated]
  cache_failed e hcache hclean := farCache_put_of_error hclean hcache
  store := by
    intro hkeeps
    have hfar : ((t.persist r).fill now r).farStore = (RateStore.put t.farStore r).2 :=
      farStore_put_of_ok hput
    have hkept : t.farStore.kept r = r := by
      cases t.farStore with
      | table _ => rfl
      | rows _ => exact h.undated
    rw [hfar, Store.record?_put_self hkeeps, hkept]
  source := rfl
  others := by
    intro c hc
    have hstore : (t.persist r).farStore.slice c = t.farStore.slice c := by
      rw [farStore_put_of_ok hput, Store.slice_put_of_ne hc.symm]
    exact ⟨(FirstTier.get?_cache t.first r now c).trans (if_neg hc), slice_farCache_put hc, hstore⟩

/-- A rate is recorded exactly if the text names another currency than the base, the rate is
positive and the store takes the record; otherwise nothing that is kept changes. Rows give a record
back only if the year of its time has four digits. -/
theorem record_whole (t : Apart π) (now : Instant) (code : String) (rate : Decimal)
    (provider : String) (hclean : t.store.inner.Clean)
    (hrange : t.cache.PutsArrive → t.farCache.InRange now) :
    (∀ r, (t.record now code rate provider).1 = .ok r ↔
      r.Notes code rate provider now ∧ (RateStore.put t.store r).1 = .ok ()) ∧
    ((∃ r : RateRecord, r.Notes code rate provider now) ↔
      (∃ c, CurrencyCode.parse code = .ok c ∧ c ≠ .usd) ∧ rate.IsPositive) ∧
    ((∀ x ∈ code.toList, Text.isBlank x) → CurrencyCode.parse code = .ok .usd) ∧
    (∀ e, (t.record now code rate provider).1 = .error e →
      t.Untouched (t.record now code rate provider).2) ∧
    ∀ r, (t.record now code rate provider).1 = .ok r →
      t.Recorded (t.record now code rate provider).2 now r := by
  refine ⟨fun r ↦ record_eq_ok_iff, RateRecord.exists_notes_iff, CurrencyCode.parse_of_blank,
    fun e ↦ untouched_of_error hclean, ?_⟩
  intro r h
  obtain ⟨hnotes, hput⟩ := record_eq_ok_iff.1 h
  rw [record_of_taken hnotes hput]
  exact recorded_of_notes hnotes hput hrange

end Record

end Tiers

section Won

def bareTiers (storePut : Option (Failure StoreError)) : Tiers.Apart Registry where
  first := ∅
  cache := { inner := { inner := .timed (.empty (Span.ofSeconds 60)) } }
  store := { inner := { inner := .rows default, putFailure := storePut } }
  source := ⟨[]⟩

def deskRate : Decimal := (wonRecord "desk" 400 (midnight 9)).rate

theorem record_whole_won :
    (bareTiers none).Recorded ((bareTiers none).record (midnight 9) " krw" deskRate "desk").2
        (midnight 9) (wonRecord "desk" 400 (midnight 9)) ∧
      (bareTiers (some ⟨.database "disk full", false⟩)).Untouched
        ((bareTiers (some ⟨.database "disk full", false⟩)).record (midnight 9) " krw" deskRate
          "desk").2 := by
  have hclean : (bareTiers none).store.inner.Clean := by
    intro f hf
    exact nomatch hf
  have hfull : (bareTiers (some ⟨.database "disk full", false⟩)).store.inner.Clean := by
    intro f hf
    obtain rfl := Option.some.inj hf
    rfl
  have hrange : (bareTiers none).farCache.InRange (midnight 9) :=
    (by decide +kernel : (midnight 9).plus? (Span.ofSeconds 60) ≠ none)
  have hnotes : (wonRecord "desk" 400 (midnight 9)).Notes " krw" deskRate "desk" (midnight 9) :=
    ⟨by decide +kernel, rfl, rfl, rfl, rfl⟩
  obtain ⟨hok, -, -, -, hrecorded⟩ :=
    (bareTiers none).record_whole (midnight 9) " krw" deskRate "desk" hclean fun _ ↦ hrange
  obtain ⟨-, -, -, huntouched, -⟩ := (bareTiers (some ⟨.database "disk full", false⟩)).record_whole
    (midnight 9) " krw" deskRate "desk" hfull fun _ ↦ hrange
  exact ⟨hrecorded _ ((hok _).2 ⟨hnotes, rfl⟩), huntouched (.store (.database "disk full")) rfl⟩

/-- A day after the last midnight of the year 9999 the rate is recorded as well, but the store does
not give it back. -/
theorem bareTiers_far :
    ((bareTiers none).record ((midnight 2932896).plus (Span.ofSeconds 86400)) "KRW" deskRate
        "desk").1 = .ok (wonRecord "desk" 400 farMidnight) ∧
      (RateStore.get ((bareTiers none).record ((midnight 2932896).plus (Span.ofSeconds 86400)) "KRW"
        deskRate "desk").2.store won).1 = .error (.row .malformed) := by
  constructor
  · decide +kernel
  · decide +kernel

end Won

end TieredRates
