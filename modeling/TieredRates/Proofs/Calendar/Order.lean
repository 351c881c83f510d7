import TieredRates.Proofs.Calendar.Civil

namespace TieredRates

namespace Civil

/-- Earlier by year, or in one year by month, or in one month by day. -/
def Precedes (c c' : Civil) : Prop :=
  c.year < c'.year ∨ c.year = c'.year ∧ (c.month < c'.month ∨ c.month = c'.month ∧ c.day < c'.day)

instance (c c' : Civil) : Decidable (c.Precedes c') := inferInstanceAs (Decidable (_ ∨ _))

section Months

theorem days_from_march : ∀ month < 12, 3 ≤ month → (153 * (month + 1 - 3 : Nat) + 2 : Int) / 5 =
    (153 * (month - 3 : Nat) + 2) / 5 +
      (if month = 4 ∨ month = 6 ∨ month = 9 ∨ month = 11 then 30 else 31 : Nat) := by
  decide

theorem dayNumber_next_month (year : Int) {month : Nat} (hpos : 1 ≤ month) (hlast : month < 12) :
    dayNumber ⟨year, month + 1, 0⟩ = dayNumber ⟨year, month, 0⟩ + monthLength year month := by
  obtain rfl | rfl | hmarch : month = 1 ∨ month = 2 ∨ 3 ≤ month := by omega
  · simp [dayNumber, monthLength]
    omega
  · have hfebruary : monthLength year 2 = if isLeapYear year then 29 else 28 := rfl
    rw [hfebruary]
    split
    · next hleap =>
      rw [isLeapYear_iff] at hleap
      simp [dayNumber]
      omega
    · next hleap =>
      rw [isLeapYear_iff] at hleap
      simp [dayNumber]
      omega
  · have hdays := days_from_march month hlast hmarch
    simp only [dayNumber]
    rw [if_neg (by omega), if_neg (by omega), if_neg (by omega), if_neg (by omega), monthLength,
      if_neg (by omega)]
    omega

theorem dayNumber_next_year (year : Int) :
    dayNumber ⟨year + 1, 1, 0⟩ = dayNumber ⟨year, 12, 0⟩ + monthLength year 12 := by
  simp [dayNumber, monthLength]
  omega

/-- The last day before a month, months being counted through all years. -/
def monthStart (k : Int) : Int := dayNumber ⟨k / 12, (k % 12).toNat + 1, 0⟩

def daysOfMonth (k : Int) : Nat := monthLength (k / 12) ((k % 12).toNat + 1)

theorem monthStart_succ (k : Int) : monthStart (k + 1) = monthStart k + daysOfMonth k := by
  rw [monthStart, monthStart, daysOfMonth]
  by_cases hlast : k % 12 = 11
  · have hyear : (k + 1) / 12 = k / 12 + 1 := by omega
    have hmonth : (k + 1) % 12 = 0 := by omega
    rw [hyear, hmonth, hlast]
    exact dayNumber_next_year _
  · have hyear : (k + 1) / 12 = k / 12 := by omega
    have hmonth : ((k + 1) % 12).toNat = (k % 12).toNat + 1 := by omega
    rw [hyear, hmonth]
    exact dayNumber_next_month _ (by omega) (by omega)

theorem monthStart_le_add (k : Int) (n : Nat) : monthStart k ≤ monthStart (k + n) := by
  induction n with
  | zero => simp
  | succ n ih =>
    rw [Int.natCast_succ, ← Int.add_assoc, monthStart_succ]
    omega

theorem monthStart_le {k k' : Int} (h : k ≤ k') : monthStart k ≤ monthStart k' := by
  obtain ⟨n, rfl⟩ := Int.le.dest h
  exact monthStart_le_add k n

def monthIndex (c : Civil) : Int := 12 * c.year + c.month - 1

variable {c c' : Civil}

theorem Exists.monthIndex_div (h : c.Exists) : c.monthIndex / 12 = c.year := by
  obtain ⟨hpos, hle, -⟩ := h
  rw [monthIndex]
  omega

theorem Exists.monthIndex_mod (h : c.Exists) : (c.monthIndex % 12).toNat + 1 = c.month := by
  obtain ⟨hpos, hle, -⟩ := h
  rw [monthIndex]
  omega

theorem Exists.dayNumber_eq (h : c.Exists) : c.dayNumber = monthStart c.monthIndex + c.day := by
  rw [monthStart, h.monthIndex_div, h.monthIndex_mod]
  simp only [dayNumber]
  omega

theorem Exists.day_le (h : c.Exists) : c.day ≤ daysOfMonth c.monthIndex := by
  rw [daysOfMonth, h.monthIndex_div, h.monthIndex_mod]
  exact h.2.2.2

theorem dayNumber_lt_of_monthIndex_lt (h : c.Exists) (h' : c'.Exists)
    (hlt : c.monthIndex < c'.monthIndex) : c.dayNumber < c'.dayNumber := by
  have hmono : monthStart (c.monthIndex + 1) ≤ monthStart c'.monthIndex := monthStart_le hlt
  have hday := h.day_le
  have hpos := h'.2.2.1
  rw [monthStart_succ] at hmono
  rw [h.dayNumber_eq, h'.dayNumber_eq]
  omega

theorem precedes_iff_monthIndex (h : c.Exists) (h' : c'.Exists) : c.Precedes c' ↔
    c.monthIndex < c'.monthIndex ∨ c.monthIndex = c'.monthIndex ∧ c.day < c'.day := by
  obtain ⟨hpos, hle, -⟩ := h
  obtain ⟨hpos', hle', -⟩ := h'
  rw [Precedes, monthIndex, monthIndex]
  omega

theorem dayNumber_lt_of_precedes (h : c.Exists) (h' : c'.Exists) (hlt : c.Precedes c') :
    c.dayNumber < c'.dayNumber := by
  rcases (precedes_iff_monthIndex h h').1 hlt with hmonth | ⟨hmonth, hday⟩
  · exact dayNumber_lt_of_monthIndex_lt h h' hmonth
  · rw [h.dayNumber_eq, h'.dayNumber_eq, hmonth]
    omega

theorem precedes_or_eq_or_precedes (c c' : Civil) :
    c.Precedes c' ∨ c = c' ∨ c'.Precedes c := by
  obtain ⟨year, month, day⟩ := c
  obtain ⟨year', month', day'⟩ := c'
  simp only [Precedes, Civil.mk.injEq]
  omega

theorem dayNumber_inj (h : c.Exists) (h' : c'.Exists) (heq : c.dayNumber = c'.dayNumber) :
    c = c' := by
  rcases precedes_or_eq_or_precedes c c' with hlt | rfl | hlt
  · have hday := dayNumber_lt_of_precedes h h' hlt
    omega
  · rfl
  · have hday := dayNumber_lt_of_precedes h' h hlt
    omega

theorem dayNumber_lt_iff (h : c.Exists) (h' : c'.Exists) :
    c.dayNumber < c'.dayNumber ↔ c.Precedes c' := by
  refine ⟨fun hlt ↦ ?_, dayNumber_lt_of_precedes h h'⟩
  rcases precedes_or_eq_or_precedes c c' with hprecedes | rfl | hprecedes
  · exact hprecedes
  · omega
  · have hday := dayNumber_lt_of_precedes h' h hprecedes
    omega

theorem ofDayNumber_dayNumber (h : c.Exists) : ofDayNumber c.dayNumber = c :=
  dayNumber_inj (exists_ofDayNumber _) h (dayNumber_ofDayNumber _)

end Months

end Civil

namespace Date

variable {c : Civil} {d e : Date}

theorem lt_iff_precedes : d < e ↔ d.civil.Precedes e.civil := by
  rw [civil, civil, ← Civil.dayNumber_lt_iff (Civil.exists_ofDayNumber _)
    (Civil.exists_ofDayNumber _), Civil.dayNumber_ofDayNumber, Civil.dayNumber_ofDayNumber]
  rfl

theorem ofCivil?_eq_some_iff : ofCivil? c = some d ↔ c.Exists ∧ d.civil = c := by
  constructor
  · intro h
    rw [ofCivil?, Option.ite_none_right_eq_some] at h
    obtain ⟨hexists, h⟩ := h
    rw [ofDayNumber?] at h
    split at h
    · obtain rfl := Option.some.inj h
      exact ⟨hexists, Civil.ofDayNumber_dayNumber hexists⟩
    · simp at h
  · rintro ⟨-, rfl⟩
    exact d.ofCivil?_civil

theorem exists_civil_eq (h : c.Exists) (hfirst : 0 ≤ c.year) (hlast : c.year ≤ 9999) :
    ∃ d : Date, d.civil = c := by
  have hday := h.day_lt
  obtain ⟨hpos, hle, -⟩ := id h
  have hrange : -96465292 ≤ c.dayNumber ∧ c.dayNumber ≤ 95026236 := by
    simp only [Civil.dayNumber]
    split <;> omega
  exact ⟨⟨c.dayNumber, hrange.1, hrange.2⟩, Civil.ofDayNumber_dayNumber h⟩

end Date

end TieredRates
