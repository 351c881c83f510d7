import TieredRates.Proofs.Resolution.NonStrict
import TieredRates.Proofs.Table
import TieredRates.Proofs.Tier.Monitor

namespace TieredRates

section Find

variable {rs : List RateRecord} {c : CurrencyCode}

theorem find?_target_eq {r? : Option RateRecord} (h : ∀ r, r ∈ rs ∧ r.target = c ↔ r? = some r) :
    rs.find? (·.target = c) = r? := by
  cases r? with
  | none =>
    rw [List.find?_eq_none]
    intro r hr
    have hnone := mt (h r).1 (by simp)
    simpa using fun htarget ↦ hnone ⟨hr, htarget⟩
  | some r =>
    obtain ⟨hr, htarget⟩ := (h r).2 rfl
    cases hfind : rs.find? (·.target = c) with
    | none =>
      have hother := List.find?_eq_none.1 hfind r hr
      simp [htarget] at hother
    | some s =>
      have hs : s.target = c := by simpa using List.find?_some hfind
      exact ((h s).1 ⟨List.mem_of_find?_eq_some hfind, hs⟩).symm

theorem filter_target_eq (h : (rs.map (·.target)).Nodup) (c : CurrencyCode) :
    rs.filter (·.target = c) = (rs.find? (·.target = c)).toList := by
  induction rs with
  | nil => rfl
  | cons r rs ih =>
    rw [List.map_cons, List.nodup_cons] at h
    by_cases hr : r.target = c
    · have hrest : rs.filter (·.target = c) = [] := by
        rw [List.filter_eq_nil_iff]
        intro s hs htarget
        have hs' : s.target = r.target := by simpa [hr] using htarget
        exact h.1 (hs' ▸ List.mem_map_of_mem hs)
      rw [List.filter_cons_of_pos (by simpa using hr), List.find?_cons_of_pos (by simpa using hr),
        hrest]
      rfl
    · rw [List.filter_cons_of_neg (by simpa using hr), List.find?_cons_of_neg (by simpa using hr),
        ih h.2]

theorem foldl_or_rate (rs : List RateRecord) (v : Option Decimal) :
    rs.foldl (fun v r ↦ v.or (some r.rate)) v = v.or (rs.head?.map (·.rate)) := by
  induction rs generalizing v with
  | nil => simp
  | cons r rs ih =>
    rw [List.foldl_cons, ih, Option.or_assoc]
    rfl

end Find

theorem FirstTier.mem_recordsWithin_iff {t : FirstTier} {window : Int} {now : Instant}
    {r : RateRecord} : r ∈ t.recordsWithin window now ↔
      ∃ c e, t.get? c = some e ∧ e.Within window now ∧ e.record = r := by
  simp only [recordsWithin, Table.values, List.mem_map, List.mem_filter, decide_eq_true_eq,
    Table.get?_eq_some_iff]
  constructor
  · rintro ⟨e, ⟨⟨⟨c, e⟩, he, rfl⟩, hw⟩, hr⟩
    exact ⟨c, e, he, hw, hr⟩
  · rintro ⟨c, e, he, hw, hr⟩
    exact ⟨e, ⟨⟨(c, e), he, rfl⟩, hw⟩, hr⟩

/-- A first tier into which these entries have been put, the first one first. -/
def FirstTier.filled (es : List Cached) : FirstTier :=
  es.foldl (fun t e ↦ FirstTier.cache t e.record e.cachedAt) ∅

theorem FirstTier.keyed_filled (es : List Cached) : Keyed (filled es) := by
  have hfill {t : FirstTier} (h : Keyed t) :
      Keyed (es.foldl (fun t e ↦ FirstTier.cache t e.record e.cachedAt) t) := by
    induction es generalizing t with
    | nil => exact h
    | cons e es ih => exact ih (h.cache e.record e.cachedAt)
  apply hfill
  intro c e he
  rw [Table.get?_empty] at he
  nomatch he

namespace Tiers

variable {κ σ π : Type} [RateStore σ]

def listed? (t : Tiers κ σ π) (c : CurrencyCode) : Option RateRecord :=
  match (RateStore.list t.store).1 with
  | .ok rs => rs.find? (·.target = c)
  | .error _ => none

def storedRates (t : Tiers κ σ π) : Table CurrencyCode Decimal :=
  match (RateStore.list t.store).1 with
  | .ok rs => .ofList (rs.map fun r ↦ (r.target, r.rate))
  | .error _ => ∅

/-- Rates of further records, gone through in this order. -/
def completed (rates : Table CurrencyCode Decimal) (rs : List RateRecord) :
    Table CurrencyCode Decimal :=
  rs.foldl (fun rates r ↦ rates.insertNew r.target r.rate) rates

variable {t : Tiers κ σ π} {p : Policy} {now : Instant} {c : CurrencyCode}

theorem rates_fst : (t.rates p now).1 =
    completed t.storedRates (FirstTier.recordsWithin t.first p.l1Window now) := rfl

theorem get?_completed (rates : Table CurrencyCode Decimal) (rs : List RateRecord)
    (c : CurrencyCode) : (completed rates rs).get? c =
      (rates.get? c).or ((rs.find? (·.target = c)).map (·.rate)) := by
  rw [completed, Table.get?_foldl_insertNew, foldl_or_rate, List.head?_filter]

theorem get?_storedRates
    (h : ∀ rs, (RateStore.list t.store).1 = .ok rs → (rs.map (·.target)).Nodup) (c : CurrencyCode) :
    t.storedRates.get? c = (t.listed? c).map (·.rate) := by
  rw [storedRates, listed?]
  cases hlist : (RateStore.list t.store).1 with
  | error e => rfl
  | ok rs =>
    simp only
    rw [Table.ofList, List.foldl_map, Table.get?_foldl_insert, filter_target_eq (h rs hlist)]
    cases rs.find? (·.target = c) <;> rfl

omit [RateStore σ] in
theorem firstWithin?_eq_some_iff {window : Int} {r : RateRecord} :
    t.firstWithin? window now c = some r ↔
      ∃ e, t.first.get? c = some e ∧ e.Within window now ∧ e.record = r := by
  simp only [firstWithin?, Option.map_eq_some_iff, Option.filter_eq_some_iff, decide_eq_true_eq,
    and_assoc]
  rfl

omit [RateStore σ] in
theorem find?_of_perm {window : Int} (h : FirstTier.Keyed t.first)
    {rs : List RateRecord} (hrs : rs.Perm (FirstTier.recordsWithin t.first window now))
    (c : CurrencyCode) : rs.find? (·.target = c) = t.firstWithin? window now c := by
  apply find?_target_eq
  intro r
  rw [hrs.mem_iff, FirstTier.mem_recordsWithin_iff, firstWithin?_eq_some_iff]
  constructor
  · rintro ⟨⟨d, e, he, hw, rfl⟩, hc⟩
    obtain rfl : d = c := (h d e he).symm.trans hc
    exact ⟨e, he, hw, rfl⟩
  · rintro ⟨e, he, hw, rfl⟩
    exact ⟨⟨c, e, he, hw, rfl⟩, h c e he⟩

theorem get?_completed_of_perm
    (hkeyed : FirstTier.Keyed t.first)
    (hdistinct : ∀ rs, (RateStore.list t.store).1 = .ok rs → (rs.map (·.target)).Nodup)
    {rs : List RateRecord} (hrs : rs.Perm (FirstTier.recordsWithin t.first p.l1Window now))
    (c : CurrencyCode) : (completed t.storedRates rs).get? c =
      ((t.listed? c).or (t.firstWithin? p.l1Window now c)).map (·.rate) := by
  rw [get?_completed, get?_storedRates hdistinct, find?_of_perm hkeyed hrs]
  cases t.listed? c <;> rfl

theorem listed?_target {r : RateRecord} (h : t.listed? c = some r) : r.target = c := by
  rw [listed?] at h
  split at h
  · simpa using List.find?_some h
  · simp at h

omit [RateStore σ] in
theorem firstWithin?_target {window : Int} {r : RateRecord}
    (h : FirstTier.Keyed t.first)
    (hr : t.firstWithin? window now c = some r) : r.target = c := by
  obtain ⟨e, he, -, rfl⟩ := firstWithin?_eq_some_iff.1 hr
  exact h c e he

omit [RateStore σ] in
theorem record_mem_recordsWithin_iff {e : Cached} {window : Int}
    (h : FirstTier.Keyed t.first) (he : t.first.get? c = some e) :
    e.record ∈ FirstTier.recordsWithin t.first window now ↔ e.Within window now := by
  rw [FirstTier.mem_recordsWithin_iff]
  constructor
  · rintro ⟨d, e', he', hw, hrecord⟩
    obtain rfl : d = c := (h d e' he').symm.trans (hrecord ▸ h c e he)
    obtain rfl := Option.some.inj (he.symm.trans he')
    exact hw
  · intro hw
    exact ⟨c, e, he, hw, rfl⟩

theorem inFirst_eq_hit_iff {e : Cached} :
    Lookup.inFirst p .nonStrict now (some e) = .hit e.record ↔ e.Within p.l1Window now := by
  rw [Lookup.inFirst]
  split
  · next hw => simp [Lookup.judge, p.accepts_nonStrict, hw]
  · next hw => simp [hw]

/-- Each currency is shown at the rate of its stored record, or else of its record in the first tier
if that is young enough to answer a question that does not insist. If the store fails, the first
tier alone is shown. -/
theorem rates_merge (t : Tiers κ σ π) (p : Policy) (now : Instant)
    (hkeyed : FirstTier.Keyed t.first)
    (hdistinct : ∀ rs, (RateStore.list t.store).1 = .ok rs → (rs.map (·.target)).Nodup) :
    (∀ c, (t.rates p now).1.get? c =
      ((t.listed? c).or (t.firstWithin? p.l1Window now c)).map (·.rate)) ∧
    (∀ e, (RateStore.list t.store).1 = .error e → ∀ c,
      (t.rates p now).1.get? c = (t.firstWithin? p.l1Window now c).map (·.rate)) ∧
    (∀ es : List Cached, es.Perm t.first.values →
      completed t.storedRates ((es.filter fun e ↦ e.Within p.l1Window now).map (·.record)) =
        (t.rates p now).1) ∧
    (∀ c e, t.first.get? c = some e →
      (e.record ∈ FirstTier.recordsWithin t.first p.l1Window now ↔
        Lookup.inFirst p .nonStrict now (some e) = .hit e.record)) ∧
    (t.rates p now).1.get? .usd = none ∧
    (∀ c rate, (t.rates p now).1.get? c = some rate → rate.IsPositive) ∧
    (t.rates p now).2 = { t with store := (RateStore.list t.store).2 } ∧
    ∀ s : Store, (RateStore.list s).2 = s := by
  have hmerge : ∀ c, (t.rates p now).1.get? c =
      ((t.listed? c).or (t.firstWithin? p.l1Window now c)).map (·.rate) :=
    get?_completed_of_perm hkeyed hdistinct (.refl _)
  refine ⟨hmerge, ?_, ?_, ?_, ?_, ?_, rfl, Store.list_store⟩
  · intro e he c
    have hnone : t.listed? c = none := by
      rw [listed?, he]
    rw [hmerge, hnone, Option.none_or]
  · intro es hes
    apply Table.ext_get?
    intro c
    rw [hmerge]
    exact get?_completed_of_perm hkeyed hdistinct ((hes.filter _).map _) c
  · intro c e he
    rw [record_mem_recordsWithin_iff hkeyed he, inFirst_eq_hit_iff]
  · rw [hmerge, Option.map_eq_none_iff, Option.eq_none_iff_forall_ne_some]
    intro r hr
    rw [Option.or_eq_some_iff] at hr
    rcases hr with hr | ⟨-, hr⟩
    · exact r.target_ne (listed?_target hr)
    · exact r.target_ne (firstWithin?_target hkeyed hr)
  · intro c rate hrate
    rw [hmerge, Option.map_eq_some_iff] at hrate
    obtain ⟨r, -, rfl⟩ := hrate
    exact r.rate_pos

end Tiers

section Won

def pesoRecord : RateRecord where
  __ := wonRecord "desk" 200 (midnight 9)
  target := ⟨⟨'M', by decide⟩, ⟨'X', by decide⟩, ⟨'N', by decide⟩⟩
  target_ne := by decide

def shelfTiers : Tiers Unit (Table CurrencyCode RateRecord) Unit where
  first := FirstTier.filled
    [⟨wonRecord "paper" 400 (midnight 9), midnight 9⟩, ⟨pesoRecord, midnight 9⟩]
  cache := ()
  store := Table.insert ∅ won (wonRecord "bank" 340 (midnight 8))
  source := ()

theorem rates_merge_won :
    (shelfTiers.rates {} ((midnight 9).plus (Span.ofSeconds 300))).1.get? won =
        some (wonRecord "bank" 340 (midnight 8)).rate ∧
      (shelfTiers.rates {} ((midnight 9).plus (Span.ofSeconds 300))).1.get? pesoRecord.target =
        some pesoRecord.rate ∧
      (shelfTiers.rates {} ((midnight 9).plus (Span.ofSeconds 301))).1.get? pesoRecord.target =
        none := by
  have hkeyed : FirstTier.Keyed shelfTiers.first := FirstTier.keyed_filled _
  have hdistinct : ∀ rs, (RateStore.list shelfTiers.store).1 = .ok rs →
      (rs.map (·.target)).Nodup := by
    intro rs hrs
    obtain rfl := Except.ok.inj hrs
    decide +kernel
  have hmerge := fun now ↦ (shelfTiers.rates_merge {} now hkeyed hdistinct).1
  refine ⟨(hmerge _ _).trans ?_, (hmerge _ _).trans ?_, (hmerge _ _).trans ?_⟩
  · decide +kernel
  · decide +kernel
  · decide +kernel

end Won

end TieredRates
