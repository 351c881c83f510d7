import TieredRates.Calendar.Date

namespace TieredRates

namespace Civil

def ofParts (era : Int) (century span year inYear : Nat) : Civil :=
  let m := (5 * inYear + 2) / 153
  let y : Int := 400 * era + (100 * century + 4 * span + year : Nat)
  { year := if m < 10 then y else y + 1
    month := if m < 10 then m + 3 else m - 9
    day := inYear - (153 * m + 2) / 5 + 1 }

theorem dayNumber_ofParts (era : Int) {century span year inYear : Nat} (hc : century ≤ 3)
    (hs : span ≤ 24) (hy : year ≤ 3) (hd : inYear ≤ 365) :
    (ofParts era century span year inYear).dayNumber =
      146097 * era + (36524 * century + 1461 * span + 365 * year + inYear : Nat) - 719468 := by
  have hm : (5 * inYear + 2) / 153 ≤ 11 := by omega
  have hle : (153 * ((5 * inYear + 2) / 153) + 2) / 5 ≤ inYear := by omega
  rw [ofParts]
  generalize (5 * inYear + 2) / 153 = m at hm hle
  by_cases h10 : m < 10
  · simp only [dayNumber, h10, if_true]
    rw [if_neg (by omega), if_neg (by omega)]
    omega
  · simp only [dayNumber, h10, if_false]
    rw [if_pos (by omega), if_pos (by omega)]
    omega

/-- The parts of a day: eras, centuries, spans of four years, years, days. A year has a 366th day
only at the end of a span, and the last span of a century has it only at the end of an era. -/
theorem ofDayNumber_eq (n : Int) : ∃ era century span year inYear,
    ofDayNumber n = ofParts era century span year inYear ∧
      century ≤ 3 ∧ span ≤ 24 ∧ year ≤ 3 ∧ inYear ≤ 365 ∧
      (inYear = 365 → year = 3 ∧ (span = 24 → century = 3)) ∧
      146097 * era + (36524 * century + 1461 * span + 365 * year + inYear : Nat) - 719468 = n := by
  refine ⟨_, _, _, _, _, rfl, ?_⟩
  omega

theorem dayNumber_ofDayNumber (n : Int) : (ofDayNumber n).dayNumber = n := by
  obtain ⟨era, century, span, year, inYear, he, hc, hs, hy, hd, -, hn⟩ := ofDayNumber_eq n
  rw [he, dayNumber_ofParts era hc hs hy hd, hn]

theorem isLeapYear_iff {year : Int} :
    isLeapYear year = true ↔ year % 4 = 0 ∧ (year % 100 ≠ 0 ∨ year % 400 = 0) := by
  simp [isLeapYear]

theorem day_le_monthLength {m d month : Nat} (year : Int) (hd : m = (5 * d + 2) / 153)
    (hm : m < 11) (hmonth : month = if m < 10 then m + 3 else m - 9) :
    d - (153 * m + 2) / 5 + 1 ≤ monthLength year month := by
  have hcases : m < 10 ∧ month = m + 3 ∨ m = 10 ∧ month = 1 := by
    split at hmonth <;> omega
  rw [monthLength, if_neg (by omega)]
  split
  · have h30 : m = 1 ∨ m = 3 ∨ m = 6 ∨ m = 8 := by omega
    omega
  · omega

theorem Exists.day_lt {c : Civil} (h : c.Exists) : c.day < 100 := by
  have hlength : monthLength c.year c.month ≤ 31 := by
    rw [monthLength]
    split <;> split <;> omega
  have hday := h.2.2.2
  omega

theorem day_le_monthLength_february (era : Int) {century span year inYear : Nat}
    (hs : span ≤ 24) (hd : inYear ≤ 365)
    (hl : inYear = 365 → year = 3 ∧ (span = 24 → century = 3)) :
    inYear - (153 * 11 + 2) / 5 + 1 ≤
      monthLength (400 * era + (100 * century + 4 * span + year : Nat) + 1) 2 := by
  rw [monthLength, if_pos rfl]
  split
  · omega
  · next hleap =>
    have hlast : inYear ≠ 365 := by
      intro h
      obtain ⟨rfl, hcentury⟩ := hl h
      refine hleap (isLeapYear_iff.2 ?_)
      omega
    omega

theorem ofParts_exists (era : Int) {century span year inYear : Nat} (hs : span ≤ 24)
    (hd : inYear ≤ 365)
    (hl : inYear = 365 → year = 3 ∧ (span = 24 → century = 3)) :
    (ofParts era century span year inYear).Exists := by
  have hm : (5 * inYear + 2) / 153 ≤ 11 := by omega
  generalize hmd : (5 * inYear + 2) / 153 = m at hm
  rw [ofParts, hmd]
  refine ⟨?_, ?_, Nat.le_add_left _ _, ?_⟩
  · show 1 ≤ if m < 10 then m + 3 else m - 9
    split <;> omega
  · show (if m < 10 then m + 3 else m - 9) ≤ 12
    split <;> omega
  · by_cases h11 : m < 11
    · exact day_le_monthLength _ hmd.symm h11 rfl
    · obtain rfl : m = 11 := by omega
      exact day_le_monthLength_february era hs hd hl

theorem exists_ofDayNumber (n : Int) : (ofDayNumber n).Exists := by
  obtain ⟨era, century, span, year, inYear, he, -, hs, -, hd, hl, -⟩ := ofDayNumber_eq n
  exact he ▸ ofParts_exists era hs hd hl

end Civil

namespace Date

theorem ofDayNumber?_dayNumber (d : Date) : ofDayNumber? d.dayNumber = some d :=
  dif_pos ⟨d.first_le, d.le_last⟩

theorem ofCivil?_civil (d : Date) : ofCivil? d.civil = some d := by
  rw [civil, ofCivil?, if_pos (Civil.exists_ofDayNumber _), Civil.dayNumber_ofDayNumber,
    ofDayNumber?_dayNumber]

end Date

end TieredRates
