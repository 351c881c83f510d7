import TieredRates.Feed.Observation

namespace TieredRates.Observation

def ofDay (d : Date) (os : List Observation) : List Observation :=
  os.filter fun o ↦ o.day? = some d

def EndsBy (d : Date) (os : List Observation) : Prop := ∀ o ∈ os, ∀ d', o.day? = some d' → d' ≤ d

/-- The day is the last one, and the observation the last of it. -/
structure IsLatest (os : List Observation) (d : Date) (o : Observation) : Prop where
  endsBy : EndsBy d os
  last : (ofDay d os).getLast? = some o

section Latest

variable {os os' : List Observation} {o o' : Observation} {d d' : Date}

theorem mem_ofDay : o ∈ ofDay d os ↔ o ∈ os ∧ o.day? = some d := by
  simp [ofDay]

theorem ofDay_cons_of_day (h : o.day? = some d) : ofDay d (o :: os) = o :: ofDay d os :=
  List.filter_cons_of_pos (by simpa using h)

theorem ofDay_cons_of_ne (h : o.day? ≠ some d) : ofDay d (o :: os) = ofDay d os :=
  List.filter_cons_of_neg (by simpa using h)

theorem ofDay_eq_nil_iff : ofDay d os = [] ↔ ∀ o ∈ os, o.day? ≠ some d := by
  simp [ofDay, List.filter_eq_nil_iff]

theorem IsLatest.mem (h : IsLatest os d o) : o ∈ os ∧ o.day? = some d :=
  mem_ofDay.1 (List.mem_of_getLast? h.last)

theorem IsLatest.unique (h : IsLatest os d o) (h' : IsLatest os d' o') : d = d' ∧ o = o' := by
  have hle : d ≤ d' := h'.endsBy o h.mem.1 d h.mem.2
  have hge : d' ≤ d := h.endsBy o' h'.mem.1 d' h'.mem.2
  obtain rfl : d = d' := Date.ext_dayNumber (Int.le_antisymm hle hge)
  exact ⟨rfl, Option.some.inj (h.last.symm.trans h'.last)⟩

theorem latest?_eq_none_iff : latest? os = none ↔ ∀ o ∈ os, o.day? = none := by
  induction os with
  | nil => simp [latest?]
  | cons o os ih =>
    rw [List.forall_mem_cons, ← ih, latest?]
    cases latest? os with
    | none => cases o.day? <;> simp
    | some found =>
      cases o.day? with
      | none => simp
      | some d =>
        simp only [reduceCtorEq, and_false, iff_false]
        split <;> simp

theorem isLatest_cons_of_undated (ho : o.day? = none) (h : IsLatest os d o') :
    IsLatest (o :: os) d o' where
  endsBy := by
    intro a ha d' hd'
    rcases List.mem_cons.1 ha with rfl | ha
    · simp [ho] at hd'
    · exact h.endsBy a ha d' hd'
  last := by
    rw [ofDay_cons_of_ne (by simp [ho])]
    exact h.last

theorem isLatest_cons_of_before (ho : o.day? = some d)
    (hbefore : ∀ a ∈ os, ∀ d', a.day? = some d' → d' < d) : IsLatest (o :: os) d o where
  endsBy := by
    intro a ha d' hd'
    rcases List.mem_cons.1 ha with rfl | ha
    · obtain rfl := Option.some.inj (ho.symm.trans hd')
      exact Int.le_refl d.dayNumber
    · exact Int.le_of_lt (hbefore a ha d' hd')
  last := by
    have hnil : ofDay d os = [] := by
      refine ofDay_eq_nil_iff.2 ?_
      intro a ha hd
      exact Int.lt_irrefl d.dayNumber (hbefore a ha d hd)
    rw [ofDay_cons_of_day ho, hnil]
    rfl

theorem isLatest_cons_of_le (ho : o.day? = some d') (hle : d' ≤ d) (h : IsLatest os d o') :
    IsLatest (o :: os) d o' where
  endsBy := by
    intro a ha e he
    rcases List.mem_cons.1 ha with rfl | ha
    · obtain rfl := Option.some.inj (ho.symm.trans he)
      exact hle
    · exact h.endsBy a ha e he
  last := by
    by_cases hd : o.day? = some d
    · rw [ofDay_cons_of_day hd, List.getLast?_cons, h.last]
      rfl
    · rw [ofDay_cons_of_ne hd]
      exact h.last

theorem isLatest_of_latest? (h : latest? os = some (d, o)) : IsLatest os d o := by
  induction os generalizing d o with
  | nil => simp [latest?] at h
  | cons a os ih =>
    rw [latest?] at h
    cases hrest : latest? os with
    | none =>
      have hundated := latest?_eq_none_iff.1 hrest
      rw [hrest] at h
      obtain ⟨d', hd', hpair⟩ := Option.map_eq_some_iff.1 h
      obtain ⟨rfl, rfl⟩ := Prod.mk.inj hpair
      apply isLatest_cons_of_before hd'
      intro b hb e he
      simp [hundated b hb] at he
    | some found =>
      obtain ⟨d₁, o₁⟩ := found
      have hlatest := ih hrest
      rw [hrest] at h
      cases hday : a.day? with
      | none =>
        rw [hday] at h
        obtain ⟨rfl, rfl⟩ := Prod.mk.inj (Option.some.inj h)
        exact isLatest_cons_of_undated hday hlatest
      | some d₂ =>
        simp only [hday] at h
        split at h
        · next hlt =>
          obtain ⟨rfl, rfl⟩ := Prod.mk.inj (Option.some.inj h)
          apply isLatest_cons_of_before hday
          intro b hb e he
          exact Int.lt_of_le_of_lt (hlatest.endsBy b hb e he) hlt
        · next hlt =>
          obtain ⟨rfl, rfl⟩ := Prod.mk.inj (Option.some.inj h)
          exact isLatest_cons_of_le hday (Int.not_lt.1 hlt) hlatest

theorem latest?_eq_some_iff : latest? os = some (d, o) ↔ IsLatest os d o := by
  refine ⟨isLatest_of_latest?, ?_⟩
  intro h
  cases hlatest : latest? os with
  | none =>
    have hundated := latest?_eq_none_iff.1 hlatest o h.mem.1
    simp [h.mem.2] at hundated
  | some found =>
    obtain ⟨rfl, rfl⟩ := h.unique (isLatest_of_latest? hlatest)
    rfl

theorem exists_isLatest (h : ∃ o ∈ os, o.day? ≠ none) : ∃ d o, IsLatest os d o := by
  cases hlatest : latest? os with
  | none =>
    obtain ⟨o, ho, hday⟩ := h
    exact absurd (latest?_eq_none_iff.1 hlatest o ho) hday
  | some found => exact ⟨found.1, found.2, isLatest_of_latest? hlatest⟩

theorem empty_or_undated_or_latest (os : List Observation) :
    os = [] ∨ (os ≠ [] ∧ ∀ o ∈ os, o.day? = none) ∨ ∃ d o, IsLatest os d o := by
  by_cases hdated : ∃ o ∈ os, o.day? ≠ none
  · exact .inr (.inr (exists_isLatest hdated))
  · by_cases hos : os = []
    · exact .inl hos
    · exact .inr (.inl ⟨hos, by simpa using hdated⟩)

/-- Whatever is done to the other observations, as long as none of them is of a later day. -/
theorem IsLatest.of_ofDay_eq (h : IsLatest os d o) (hends : EndsBy d os')
    (hday : ofDay d os' = ofDay d os) : IsLatest os' d o :=
  ⟨hends, hday ▸ h.last⟩

theorem EndsBy.of_perm (h : EndsBy d os) (hp : os'.Perm os) : EndsBy d os' := by
  intro o ho
  exact h o (hp.mem_iff.1 ho)

end Latest

section Outcome

inductive FirstPositive (o : Observation) (v : Decimal) : Prop
  | rate (h : o.rate.bind number? = some v) (hv : v.IsPositive)
  | fallback (hrate : ∀ v', o.rate.bind number? = some v' → ¬ v'.IsPositive)
      (h : o.fallbackRate.bind number? = some v) (hv : v.IsPositive)

inductive FirstNumber (o : Observation) (v : Decimal) : Prop
  | rate (h : o.rate.bind number? = some v)
  | fallback (hrate : o.rate.bind number? = none) (h : o.fallbackRate.bind number? = some v)

/-- What an observation of a day comes to: its first positive number, or else a complaint about its
first number, or else about the lack of any. -/
inductive Settles (o : Observation) (d : Date) : Except SelectionError (Date × Decimal) → Prop
  | positive {v : Decimal} (h : o.FirstPositive v) : Settles o d (.ok (d, v))
  | nonPositive {v : Decimal} (h : o.FirstNumber v) (hnone : ∀ v', ¬ o.FirstPositive v') :
      Settles o d (.error (.nonPositiveRate d v))
  | missing (hnone : ∀ v, ¬ o.FirstNumber v) : Settles o d (.error (.missingRate d))

variable {o : Observation} {d : Date} {v v' : Decimal}

theorem FirstPositive.unique (h : o.FirstPositive v) (h' : o.FirstPositive v') : v = v' := by
  cases h with
  | rate h hv =>
    cases h' with
    | rate h' _ => exact Option.some.inj (h.symm.trans h')
    | fallback hrate _ _ => exact absurd hv (hrate v h)
  | fallback hrate h hv =>
    cases h' with
    | rate h' hv' => exact absurd hv' (hrate v' h')
    | fallback _ h' _ => exact Option.some.inj (h.symm.trans h')

theorem FirstNumber.unique (h : o.FirstNumber v) (h' : o.FirstNumber v') : v = v' := by
  cases h with
  | rate h =>
    cases h' with
    | rate h' => exact Option.some.inj (h.symm.trans h')
    | fallback hrate _ => simp [h] at hrate
  | fallback hrate h =>
    cases h' with
    | rate h' => simp [hrate] at h'
    | fallback _ h' => exact Option.some.inj (h.symm.trans h')

theorem FirstPositive.exists_firstNumber (h : o.FirstPositive v) : ∃ v', o.FirstNumber v' := by
  cases h with
  | rate h _ => exact ⟨v, .rate h⟩
  | fallback _ h _ =>
    cases hrate : o.rate.bind number? with
    | none => exact ⟨v, .fallback hrate h⟩
    | some v' => exact ⟨v', .rate hrate⟩

theorem Settles.unique {x y : Except SelectionError (Date × Decimal)} (h : o.Settles d x)
    (h' : o.Settles d y) : x = y := by
  cases h with
  | positive h =>
    cases h' with
    | positive h' => rw [h.unique h']
    | nonPositive _ hnone => exact absurd h (hnone _)
    | missing hnone => exact absurd h.exists_firstNumber.choose_spec (hnone _)
  | nonPositive h hnone =>
    cases h' with
    | positive h' => exact absurd h' (hnone _)
    | nonPositive h' _ => rw [h.unique h']
    | missing hnone' => exact absurd h (hnone' _)
  | missing hnone =>
    cases h' with
    | positive h' => exact absurd h'.exists_firstNumber.choose_spec (hnone _)
    | nonPositive h' _ => exact absurd h' (hnone _)
    | missing _ => rfl

theorem candidates_eq (o : Observation) : o.candidates =
    (o.rate.bind number?).toList ++ (o.fallbackRate.bind number?).toList := by
  simp only [candidates, List.filterMap_cons, List.filterMap_nil]
  generalize o.rate.bind number? = p, o.fallbackRate.bind number? = q
  cases p <;> cases q <;> rfl

theorem firstNumber_iff : o.FirstNumber v ↔ o.candidates.head? = some v := by
  rw [candidates_eq]
  constructor
  · rintro (h | ⟨hrate, h⟩)
    · simp [h]
    · simp [hrate, h]
  · intro h
    cases hp : o.rate.bind number? with
    | some w =>
      obtain rfl : w = v := by simpa [hp] using h
      exact .rate hp
    | none =>
      cases hq : o.fallbackRate.bind number? with
      | some w =>
        obtain rfl : w = v := by simpa [hp, hq] using h
        exact .fallback hp hq
      | none => simp [hp, hq] at h

theorem find?_toList_eq_some_iff {p : Option Decimal} :
    p.toList.find? (fun d ↦ d.IsPositive) = some v ↔ p = some v ∧ v.IsPositive := by
  cases p with
  | none => simp
  | some w =>
    rw [Option.toList_some, List.find?_singleton]
    simp only [decide_eq_true_eq, Option.ite_none_right_eq_some, Option.some.injEq]
    constructor
    · rintro ⟨hw, rfl⟩
      exact ⟨rfl, hw⟩
    · rintro ⟨rfl, hv⟩
      exact ⟨hv, rfl⟩

theorem firstPositive_iff :
    o.FirstPositive v ↔ o.candidates.find? (fun d ↦ d.IsPositive) = some v := by
  rw [candidates_eq, List.find?_append, Option.or_eq_some_iff, find?_toList_eq_some_iff,
    find?_toList_eq_some_iff, List.find?_eq_none]
  constructor
  · rintro (⟨h, hv⟩ | ⟨hrate, h, hv⟩)
    · exact .inl ⟨h, hv⟩
    · exact .inr ⟨by simpa using hrate, h, hv⟩
  · rintro (⟨h, hv⟩ | ⟨hrate, h, hv⟩)
    · exact .rate h hv
    · exact .fallback (by simpa using hrate) h hv

theorem settles_rate? (o : Observation) (d : Date) :
    o.Settles d ((o.rate? d).map fun rate ↦ (d, rate)) := by
  rw [rate?]
  cases hpositive : o.candidates.find? fun v ↦ v.IsPositive with
  | some v => exact .positive (firstPositive_iff.2 hpositive)
  | none =>
    have hnone : ∀ v, ¬ o.FirstPositive v := by
      intro v hv
      simp [firstPositive_iff.1 hv] at hpositive
    cases hnumbers : o.candidates with
    | cons v vs =>
      have hfirst : o.FirstNumber v := firstNumber_iff.2 (by rw [hnumbers, List.head?_cons])
      exact .nonPositive hfirst hnone
    | nil =>
      apply Settles.missing
      intro v hv
      simp [firstNumber_iff.1 hv, ← List.head?_eq_none_iff] at hnumbers

end Outcome

section Select

variable {os : List Observation} {o : Observation} {d : Date}

theorem select_eq_of_isLatest (h : IsLatest os d o) :
    select os = (o.rate? d).map fun rate ↦ (d, rate) := by
  cases os with
  | nil => exact absurd h.mem.1 (by simp)
  | cons a os => simp only [select, latest?_eq_some_iff.2 h]

theorem select_eq_of_undated (hne : os ≠ []) (h : ∀ o ∈ os, o.day? = none) :
    select os = .error (.noDay os.length) := by
  cases os with
  | nil => exact absurd rfl hne
  | cons a os => simp only [select, latest?_eq_none_iff.2 h]

theorem Settles.ne_of_list {x : Except SelectionError (Date × Decimal)} (h : o.Settles d x) :
    x ≠ .error .empty ∧ ∀ n, x ≠ .error (.noDay n) := by
  cases h <;> simp

/-- What is selected is what the last observation of the last day comes to. Observations of other
days, or of none, have no part in it, whatever they hold and wherever they stand. -/
theorem select_settles (os : List Observation) :
    (select os = .error .empty ↔ os = []) ∧
    (∀ n, select os = .error (.noDay n) ↔
      os ≠ [] ∧ (∀ o ∈ os, o.day? = none) ∧ n = os.length) ∧
    ((∃ o ∈ os, o.day? ≠ none) → ∃ d o, IsLatest os d o) ∧
    ∀ d o, IsLatest os d o →
      (∀ x, select os = x ↔ o.Settles d x) ∧
      (∀ os', EndsBy d os' → ofDay d os' = ofDay d os → select os' = select os) ∧
      ∀ os', os'.Perm os → ofDay d os' = ofDay d os → select os' = select os := by
  have hsettles : ∀ d o, IsLatest os d o → o.Settles d (select os) := by
    intro d o h
    rw [select_eq_of_isLatest h]
    exact settles_rate? o d
  have hsame : ∀ d o, IsLatest os d o → ∀ os', EndsBy d os' → ofDay d os' = ofDay d os →
      select os' = select os := by
    intro d o h os' hends hday
    rw [select_eq_of_isLatest h, select_eq_of_isLatest (h.of_ofDay_eq hends hday)]
  refine ⟨⟨?_, ?_⟩, fun n ↦ ⟨?_, ?_⟩, exists_isLatest, ?_⟩
  · intro h
    rcases empty_or_undated_or_latest os with hos | ⟨hne, hundated⟩ | ⟨d, o, hlatest⟩
    · exact hos
    · simp [select_eq_of_undated hne hundated] at h
    · exact absurd h (hsettles d o hlatest).ne_of_list.1
  · rintro rfl
    rfl
  · intro h
    rcases empty_or_undated_or_latest os with rfl | ⟨hne, hundated⟩ | ⟨d, o, hlatest⟩
    · exact nomatch h
    · rw [select_eq_of_undated hne hundated] at h
      exact ⟨hne, hundated, by simpa using h.symm⟩
    · exact absurd h ((hsettles d o hlatest).ne_of_list.2 n)
  · rintro ⟨hne, hundated, rfl⟩
    exact select_eq_of_undated hne hundated
  · intro d o h
    refine ⟨fun x ↦ ⟨?_, ?_⟩, hsame d o h, ?_⟩
    · rintro rfl
      exact hsettles d o h
    · intro hx
      exact (hsettles d o h).unique hx
    · intro os' hp hday
      exact hsame d o h os' (h.endsBy.of_perm hp) hday

end Select

section Spent

def february : Date := { dayNumber := 20502 }

def datedObservation (date rate : String) : Observation :=
  { date := some date, rate := some (.text rate), fallbackRate := none }

def soundObservation : Observation := datedObservation "2026-02-18" "1,338.10"

def spentObservation : Observation :=
  { datedObservation "Feb-18-2026" "n/a" with fallbackRate := some (.number (.whole (-3))) }

def spentFeed : List Observation :=
  [soundObservation, datedObservation "soon" "9999", spentObservation,
    datedObservation "January-26-2026" "1418.9522"]

def minusThree : Decimal := { Decimal.one with negative := true, size := 3, size_lt := by omega }

def swappedFeed : List Observation :=
  [datedObservation "soon" "9999", soundObservation, spentObservation,
    datedObservation "January-26-2026" "1418.9522"]

theorem select_settles_february :
    (∃ o ∈ spentFeed, o.day? ≠ none) ∧ (∃ d o, IsLatest spentFeed d o) ∧
      IsLatest spentFeed february spentObservation ∧
      spentObservation.Settles february (.error (.nonPositiveRate february minusThree)) ∧
      select spentFeed = .error (.nonPositiveRate february minusThree) ∧
      EndsBy february [soundObservation, spentObservation] ∧
      ofDay february [soundObservation, spentObservation] = ofDay february spentFeed ∧
      select [soundObservation, spentObservation] = select spentFeed ∧
      swappedFeed.Perm spentFeed ∧
      ofDay february swappedFeed = ofDay february spentFeed ∧
      select swappedFeed = select spentFeed := by
  have hsound : soundObservation.day? = some february := by decide +kernel
  have hspent : spentObservation.day? = some february := by decide +kernel
  have hsoon : (datedObservation "soon" "9999").day? = none := by decide +kernel
  have hearly : (datedObservation "January-26-2026" "1418.9522").day? =
      some { dayNumber := 20479 } := by decide +kernel
  have hbefore : ({ dayNumber := 20479 } : Date) ≤ february := by decide
  have hne : ({ dayNumber := 20479 } : Date) ≠ february := by decide
  have hsame : february ≤ february := by decide
  have hlatest : IsLatest spentFeed february spentObservation := by
    constructor
    · simp [EndsBy, spentFeed, hsound, hspent, hsoon, hearly, hbefore, hsame]
    · simp [ofDay, spentFeed, hsound, hspent, hsoon, hearly, hne]
  have hfirst : spentObservation.FirstNumber minusThree :=
    .fallback (by decide +kernel) (by decide +kernel)
  have hnone : ∀ v, ¬ spentObservation.FirstPositive v := by
    intro v hv
    have hcandidates : spentObservation.candidates.find? (fun d ↦ d.IsPositive) = none := by
      decide +kernel
    simp [firstPositive_iff.1 hv] at hcandidates
  have hends : EndsBy february [soundObservation, spentObservation] := by
    simp [EndsBy, hsound, hspent, hsame]
  have hday : ofDay february [soundObservation, spentObservation] = ofDay february spentFeed := by
    simp [ofDay, spentFeed, hsound, hspent, hsoon, hearly, hne]
  have hswapped : ofDay february swappedFeed = ofDay february spentFeed := by
    simp [ofDay, swappedFeed, spentFeed, hsound, hspent, hsoon]
  have hperm : swappedFeed.Perm spentFeed := .swap ..
  have hsettles : spentObservation.Settles february
      (.error (.nonPositiveRate february minusThree)) := .nonPositive hfirst hnone
  have hdated : ∃ o ∈ spentFeed, o.day? ≠ none := ⟨_, hlatest.mem.1, by simp [hspent]⟩
  obtain ⟨-, -, hexists, h⟩ := select_settles spentFeed
  obtain ⟨houtcome, hother, hshuffled⟩ := h february spentObservation hlatest
  exact ⟨hdated, hexists hdated, hlatest, hsettles, (houtcome _).2 hsettles, hends, hday,
    hother _ hends hday, hperm, hswapped, hshuffled _ hperm hswapped⟩

end Spent

end TieredRates.Observation
