import TieredRates.Calendar.Instant

namespace TieredRates.Instant

variable {t u v : Instant}

theorem le_iff_not_before : t ≤ u ↔ ¬ u.Before t := Iff.rfl

theorem le_refl (t : Instant) : t ≤ t := by
  rw [le_iff_not_before, Before]
  omega

theorem le_trans (h : t ≤ u) (h' : u ≤ v) : t ≤ v := by
  simp only [le_iff_not_before, Before] at h h' ⊢
  omega

theorem lt_of_le_of_lt (h : t ≤ u) (h' : u < v) : t < v := by
  have h' : u.Before v := h'
  show t.Before v
  simp only [le_iff_not_before, Before] at h h' ⊢
  omega

theorem since_self (t : Instant) : t.since t = 0 := by
  have hleap : leapBetween t t = 0 := by simp [leapBetween]
  rw [since, hleap]
  omega

theorem since_eq (t u : Instant) :
    t.since u = t.toNanos - u.toNanos + leapBetween t u * 1000000000 := by
  rw [since, toNanos, toNanos]
  generalize leapBetween t u = n
  omega

theorem toNanos_sub_le_since (ht : ¬ t.IsLeap) : t.toNanos - u.toNanos ≤ t.since u := by
  have hleap : 0 ≤ leapBetween t u := by
    rw [leapBetween]
    split
    · decide
    · exact Int.le_of_eq (if_neg fun h ↦ ht h.2).symm
  rw [since_eq]
  omega

theorem le_of_toNanos_le (hu : ¬ u.IsLeap) (h : t.toNanos ≤ u.toNanos) : t ≤ u := by
  have hts := t.second_lt
  have hus := u.second_lt
  rw [IsLeap] at hu
  rw [toNanos, toNanos] at h
  rw [le_iff_not_before, Before]
  omega

theorem toNanos_ofNanos? {n : Int} (h : ofNanos? n = some t) : t.toNanos = n ∧ ¬ t.IsLeap := by
  simp only [ofNanos?, Option.map_eq_some_iff, Date.ofDayNumber?, Option.dite_none_right_eq_some,
    Option.some.injEq] at h
  obtain ⟨_, ⟨hn, rfl⟩, rfl⟩ := h
  rw [toNanos, IsLeap]
  simp only
  omega

theorem lt_plus_iff {s : Int} (h : t.plus? s ≠ none) :
    u < t.plus s ↔ ∃ v, t.plus? s = some v ∧ u < v := by
  obtain ⟨v, hv⟩ := Option.ne_none_iff_exists'.1 h
  simp [plus, hv]

theorem earliest_le (t : Instant) : earliest ≤ t := by
  have hfirst := t.date.first_le
  have hday : earliest.date.dayNumber = -96465292 := rfl
  have hsecond : earliest.second = 0 := rfl
  have hnano : earliest.nano = 0 := rfl
  rw [le_iff_not_before, Before, hday, hsecond, hnano]
  omega

theorem not_isLeap_ofNanos? (n s : Int) :
    ¬ ((ofNanos? n).getD (if s < 0 then earliest else latest)).IsLeap := by
  cases hn : ofNanos? n with
  | some u => exact (toNanos_ofNanos? hn).2
  | none =>
    rw [Option.getD_none]
    split <;> decide

theorem not_isLeap_plus (h : ¬ t.IsLeap) (s : Int) : ¬ (t.plus s).IsLeap := by
  rw [plus, plus?, dif_neg h]
  exact not_isLeap_ofNanos? _ s

theorem ofNanos?_toNanos_ne_none (h : ¬ t.IsLeap) : ofNanos? t.toNanos ≠ none := by
  have hs := t.second_lt
  have hfirst := t.date.first_le
  have hlast := t.date.le_last
  have hday : t.toNanos / 86400000000000 = t.date.dayNumber := by
    rw [IsLeap] at h
    rw [toNanos]
    omega
  rw [ofNanos?, hday, Date.ofDayNumber?, dif_pos ⟨hfirst, hlast⟩]
  simp

theorem plus_neg_le {w : Int} (hw : 0 ≤ w) (ht : ¬ t.IsLeap) (hu : ¬ u.IsLeap)
    (h : t.toNanos - w ≤ u.toNanos) : t.plus (-w) ≤ u := by
  rw [plus, plus?, dif_neg ht]
  cases hp : ofNanos? (t.toNanos + -w) with
  | some v =>
    refine le_of_toNanos_le hu ?_
    rw [Option.getD_some, (toNanos_ofNanos? hp).1]
    exact h
  | none =>
    have hneg : -w < 0 := by
      rcases Int.lt_or_eq_of_le hw with hw | rfl
      · exact Int.neg_neg_of_pos hw
      · rw [Int.neg_zero, Int.add_zero] at hp
        exact absurd hp (ofNanos?_toNanos_ne_none ht)
    rw [Option.getD_none, if_pos hneg]
    exact earliest_le u

/-- `u` is in no leap second but perhaps the one that `t` is in. -/
def SharesLeap (t u : Instant) : Prop :=
  u.IsLeap → t.IsLeap ∧ u.date.dayNumber = t.date.dayNumber ∧ u.second = t.second

theorem SharesLeap.refl (t : Instant) : t.SharesLeap t := fun h ↦ ⟨h, rfl, rfl⟩

theorem SharesLeap.plus (h : t.SharesLeap u) (s : Int) : t.SharesLeap (u.plus s) := by
  intro hleap
  by_cases hu : u.IsLeap
  · rw [Instant.plus, plus?, dif_pos hu] at hleap ⊢
    by_cases hs : -1000000000 < s ∧ s < 1000000000 ∧ u.nano + s < 2000000000
    · rw [dif_pos hs]
      exact h hu
    · rw [dif_neg hs] at hleap
      split at hleap
      · exact absurd hleap (not_isLeap_ofNanos? _ s)
      · exact absurd hleap (not_isLeap_ofNanos? _ s)
  · exact absurd hleap (not_isLeap_plus hu s)

theorem toNanos_le_of_le (ht : ¬ t.IsLeap) (hu : ¬ u.IsLeap) (h : t ≤ u) : t.toNanos ≤ u.toNanos := by
  rw [IsLeap] at ht hu
  rw [le_iff_not_before, Before] at h
  rw [toNanos, toNanos]
  have hts := t.second_lt
  have hus := u.second_lt
  omega

theorem since_le_since (ht : ¬ t.IsLeap) (hu : ¬ u.IsLeap) (hv : ¬ v.IsLeap) (h : t ≤ u) :
    t.since v ≤ u.since v := by
  have hle := toNanos_le_of_le ht hu h
  have htv : leapBetween t v = 0 := by simp [leapBetween, ht, hv]
  have huv : leapBetween u v = 0 := by simp [leapBetween, hu, hv]
  rw [since_eq, since_eq, htv, huv]
  omega

theorem toNanos_earliest : earliest.toNanos = -96465292 * 86400000000000 := rfl

theorem toNanos_le_of_le_ofNanos? {n : Int} (hu : ¬ u.IsLeap) (hn : earliest.toNanos ≤ n)
    (h : u ≤ (ofNanos? n).getD latest) : u.toNanos ≤ n := by
  cases hv : ofNanos? n with
  | some v =>
    rw [hv, Option.getD_some] at h
    rw [← (toNanos_ofNanos? hv).1]
    exact toNanos_le_of_le hu (toNanos_ofNanos? hv).2 h
  | none =>
    -- the calendar ends before that
    have hlast := u.date.le_last
    have hsecond := u.second_lt
    rw [IsLeap] at hu
    rw [toNanos_earliest] at hn
    rw [ofNanos?, Option.map_eq_none_iff, Date.ofDayNumber?] at hv
    split at hv
    · exact absurd hv (by simp)
    · rw [toNanos]
      omega

theorem since_le_of_isLeap {w : Int} (hw : 0 ≤ w) (htl : t.IsLeap) (ht : t ≤ u) (hu : u ≤ t.plus w)
    (hleap : t.SharesLeap u) : u.since t ≤ w := by
  have htl' : 1000000000 ≤ t.nano := htl
  by_cases hs : -1000000000 < w ∧ w < 1000000000 ∧ t.nano + w < 2000000000
  · rw [plus, plus?, dif_pos htl, dif_pos hs, Option.getD_some] at hu
    rw [le_iff_not_before, Before] at ht hu
    simp only at hu
    have hbetween : leapBetween u t = 0 := by
      rw [leapBetween, if_neg (by omega), if_neg (by omega)]
    rw [since, hbetween]
    omega
  · have htn := t.nano_lt
    have hun := u.nano_lt
    rw [plus, plus?, dif_pos htl, dif_neg hs, if_pos (by omega), if_neg (by omega)] at hu
    by_cases hut : u.IsLeap
    · obtain ⟨-, hdate, hsecond⟩ := hleap hut
      have hbetween : leapBetween u t = 0 := by simp [leapBetween, hsecond]
      rw [since, hbetween]
      omega
    · have hle : u.toNanos ≤ t.toNanos - 1000000000 + w := by
        have hday := t.date.first_le
        refine toNanos_le_of_le_ofNanos? hut ?_ hu
        rw [toNanos_earliest, toNanos]
        omega
      have hbetween : leapBetween u t ≤ 1 := by
        rw [leapBetween]
        split
        · exact Int.le_refl 1
        · split <;> decide
      rw [since_eq]
      omega

theorem since_le_of_le_plus {w : Int} (hw : 0 ≤ w) (ht : t ≤ u) (hu : u ≤ t.plus w)
    (hleap : t.SharesLeap u) : u.since t ≤ w := by
  by_cases htl : t.IsLeap
  · exact since_le_of_isLeap hw htl ht hu hleap
  · have hut : ¬ u.IsLeap := fun h ↦ htl (hleap h).1
    have hle : u.toNanos ≤ t.toNanos + w := by
      have hday := t.date.first_le
      refine toNanos_le_of_le_ofNanos? hut ?_ ?_
      · rw [toNanos_earliest, toNanos]
        omega
      · rw [plus, plus?, dif_neg htl, if_neg (Int.not_lt.2 hw)] at hu
        exact hu
    have hbetween : leapBetween u t = 0 := by simp [leapBetween, hut, htl]
    rw [since_eq, hbetween]
    omega

end TieredRates.Instant
