import TieredRates.Decimal.Product

namespace TieredRates

theorem two_mul_divRound_le (m n : Nat) : 2 * (n * divRound m n) ≤ 2 * m + n := by
  have hm := Nat.div_add_mod m n
  simp only [divRound]
  split
  · rw [Nat.mul_add]
    omega
  · omega

namespace Decimal

theorem room_eq : room = 79228162514264337593543950336 := rfl

/-- Half a unit below the first whole number for which there is no room. -/
def Exceeds (m n : Nat) : Prop := (2 * room - 1) * n ≤ 2 * m

instance (m n : Nat) : Decidable (Exceeds m n) := inferInstanceAs (Decidable (_ ≤ _))

/-- `y` has the value of the product, at whatever scale. -/
def IsProduct (y a b : Decimal) : Prop :=
  y.coefficient * tenTo (a.scale + b.scale) = a.coefficient * b.coefficient * tenTo y.scale

instance (y a b : Decimal) : Decidable (y.IsProduct a b) := inferInstanceAs (Decidable (_ = _))

variable {a b y : Decimal} {size scale : Nat}

theorem natAbs_coefficient_mul (a b : Decimal) :
    (a.coefficient * b.coefficient).natAbs = a.size * b.size := by
  rw [Int.natAbs_mul, natAbs_coefficient, natAbs_coefficient]

theorem ofParts?_eq_some (negative : Bool) (hsize : size < room) (hscale : scale ≤ maxScale) :
    ofParts? negative size scale =
      some { negative, size, scale, size_lt := hsize, scale_le := hscale } :=
  dif_pos ⟨hsize, hscale⟩

theorem coefficient_of_signs (hy : y.negative = oppositeSigns a b) {m n : Nat}
    (ha : a.size = m) (hb : b.size = n) (hsize : y.size = m * n) :
    y.coefficient = a.coefficient * b.coefficient := by
  rw [coefficient, coefficient, coefficient, hy, hsize, ha, hb, oppositeSigns, Int.natCast_mul]
  cases a.negative <;> cases b.negative
  · rfl
  · exact (Int.mul_neg _ _).symm
  · exact (Int.neg_mul _ _).symm
  · exact (Int.neg_mul_neg _ _).symm

theorem reduce?_of_lt (hsize : size < room) (hscale : scale ≤ maxScale) :
    reduce? size scale = some (size, scale) := by
  have hfits : fits size scale 0 = true := by
    simp only [fits, tenTo_zero, Nat.div_one, Bool.and_eq_true, decide_eq_true_eq]
    exact ⟨hscale, hsize⟩
  have hfind : (List.range (scale + 1)).find? (fits size scale) = some 0 := by
    rw [List.range_succ_eq_map]
    exact List.find?_cons_of_pos hfits
  have hround : divRound size (tenTo 0) = size := by
    rw [divRound_of_dvd (tenTo_pos 0) (Nat.mod_one size), tenTo_zero, Nat.div_one]
  simp only [reduce?, hfind, Option.bind_eq_bind, Option.bind_some, hround, if_pos hsize]
  rfl

theorem exceeds_of_find?_eq_none
    (h : (List.range (scale + 1)).find? (fits size scale) = none) : Exceeds size (tenTo scale) := by
  have hlast := List.find?_eq_none.1 h scale (List.mem_range.2 (Nat.lt_succ_self scale))
  have hroom : room ≤ size / tenTo scale := by
    simpa [fits, Nat.le_add_left] using hlast
  have hle := (Nat.le_div_iff_mul_le (tenTo_pos scale)).1 hroom
  rw [Exceeds, room_eq]
  rw [room_eq] at hle
  omega

theorem reduce?_eq_none (h : reduce? size scale = none) : Exceeds size (tenTo scale) := by
  rw [reduce?] at h
  cases hfind : (List.range (scale + 1)).find? (fits size scale) with
  | none => exact exceeds_of_find?_eq_none hfind
  | some k =>
    have hk : k ≤ scale := Nat.le_of_lt_succ (List.mem_range.1 (List.mem_of_find?_eq_some hfind))
    simp only [hfind, Option.bind_eq_bind, Option.bind_some] at h
    split at h
    · simp at h
    · next hround =>
      split at h
      · next hall =>
        obtain rfl : k = scale := by omega
        have hle := two_mul_divRound_le size (tenTo k)
        have hmul := Nat.mul_le_mul_left (tenTo k) (Nat.le_of_not_lt hround)
        rw [Exceeds, room_eq]
        rw [room_eq] at hmul
        omega
      · simp at h

theorem reduce?_eq_some {q s : Nat} (h : reduce? size scale = some (q, s)) :
    q < room ∧ s ≤ maxScale := by
  rw [reduce?] at h
  cases hfind : (List.range (scale + 1)).find? (fits size scale) with
  | none => simp [hfind] at h
  | some k =>
    have hfits := List.find?_some hfind
    have hle := divRound_le size (tenTo k)
    have hle' := divRound_le (divRound size (tenTo k)) 10
    simp only [fits, Bool.and_eq_true, decide_eq_true_eq] at hfits
    simp only [hfind, Option.bind_eq_bind, Option.bind_some] at h
    rw [room_eq] at *
    split at h
    · next hround =>
      obtain ⟨rfl, rfl⟩ := Prod.mk.inj (Option.some.inj h)
      omega
    · split at h
      · simp at h
      · obtain ⟨rfl, rfl⟩ := Prod.mk.inj (Option.some.inj h)
        omega

theorem eq_of_fits {k : Nat} (h : Exceeds size (tenTo scale)) (hk : k ≤ scale)
    (hfits : fits size scale k = true) : k = scale := by
  simp only [fits, Bool.and_eq_true, decide_eq_true_eq] at hfits
  have hlt := (Nat.div_lt_iff_lt_mul (tenTo_pos k)).1 hfits.2
  refine Nat.le_antisymm hk (Nat.le_of_not_lt ?_)
  intro hmore
  have hten : tenTo (k + 1) ≤ tenTo scale := tenTo_le hmore
  rw [tenTo_succ] at hten
  have hpos := tenTo_pos k
  rw [Exceeds, room_eq] at h
  rw [room_eq] at hlt
  omega

theorem room_le_divRound {n : Nat} (hn : 0 < n) (h : Exceeds size n) : room ≤ divRound size n := by
  have hmod := Nat.div_add_mod size n
  rcases Nat.lt_or_ge (size / n) room with hlt | hge
  · have hlast : size / n = room - 1 := by
      have hlt' := (Nat.div_lt_iff_lt_mul hn).1 hlt
      have hle : room - 1 ≤ size / n := by
        rw [Nat.le_div_iff_mul_le hn]
        rw [Exceeds, room_eq] at h
        rw [room_eq]
        omega
      omega
    -- the last number below the room is odd, so that even a half is rounded up
    rw [hlast] at hmod
    simp only [divRound, hlast]
    rw [Exceeds] at h
    rw [room_eq] at *
    split <;> omega
  · exact Nat.le_trans hge (div_le_divRound size n)

theorem reduce?_eq_none_iff : reduce? size scale = none ↔ Exceeds size (tenTo scale) := by
  refine ⟨reduce?_eq_none, ?_⟩
  intro h
  rw [reduce?]
  cases hfind : (List.range (scale + 1)).find? (fits size scale) with
  | none => rfl
  | some k =>
    have hk : k ≤ scale := Nat.le_of_lt_succ (List.mem_range.1 (List.mem_of_find?_eq_some hfind))
    obtain rfl := eq_of_fits h hk (List.find?_some hfind)
    have hround := room_le_divRound (tenTo_pos k) h
    simp only [Option.bind_eq_bind, Option.bind_some, if_neg (Nat.not_lt.2 hround), Nat.sub_self,
      if_true]

theorem mul?_of_zero (h : a.size = 0 ∨ b.size = 0) : a.mul? b = some zero := if_pos h

theorem ofSize?_of_pos (negative : Bool) (hpos : size ≠ 0) :
    ofSize? negative size scale = ofParts? negative size scale := by
  have hne : (size != 0) = true := by simpa using hpos
  rw [ofSize?, hne, Bool.and_true]

theorem mul?_of_lt (ha : a.size ≠ 0) (hb : b.size ≠ 0) (hsize : a.size * b.size < room)
    (hscale : a.scale + b.scale ≤ maxScale) : a.mul? b = some {
      negative := oppositeSigns a b
      size := a.size * b.size
      scale := a.scale + b.scale
      size_lt := hsize
      scale_le := hscale } := by
  have hpos : a.size * b.size ≠ 0 := Nat.mul_ne_zero ha hb
  have hplaces : ¬ 47 < a.scale + b.scale := by
    simp only [maxScale] at hscale
    omega
  rw [mul?, if_neg (not_or.2 ⟨ha, hb⟩), reduce?_of_lt hsize hscale]
  simp only [if_neg hplaces, Option.bind_eq_bind, Option.bind_some, ofSize?_of_pos _ hpos,
    ofParts?_eq_some _ hsize hscale, ite_self]

theorem exists_mul?_of_lt (hsize : a.size * b.size < room) (hscale : a.scale + b.scale ≤ maxScale) :
    ∃ y, a.mul? b = some y ∧ y.IsProduct a b := by
  by_cases hzero : a.size = 0 ∨ b.size = 0
  · refine ⟨zero, mul?_of_zero hzero, ?_⟩
    have hab : a.coefficient * b.coefficient = 0 := by
      rw [Int.mul_eq_zero, coefficient_eq_zero_iff, coefficient_eq_zero_iff]
      exact hzero
    have h0 : zero.coefficient = 0 := rfl
    rw [IsProduct, hab, h0, Int.zero_mul, Int.zero_mul]
  · obtain ⟨ha, hb⟩ := not_or.1 hzero
    refine ⟨_, mul?_of_lt ha hb hsize hscale, ?_⟩
    rw [IsProduct, coefficient_of_signs rfl rfl rfl rfl]

theorem mul?_eq_none_iff :
    a.mul? b = none ↔ Exceeds (a.size * b.size) (tenTo (a.scale + b.scale)) := by
  have hpos := tenTo_pos (a.scale + b.scale)
  have hfits {q s : Nat} (negative : Bool)
      (h : reduce? (a.size * b.size) (a.scale + b.scale) = some (q, s)) :
      ofParts? negative q s ≠ none := by
    obtain ⟨hq, hs⟩ := reduce?_eq_some h
    simp [ofParts?_eq_some negative hq hs]
  rw [mul?]
  split
  · next hzero =>
    have h0 : a.size * b.size = 0 := Nat.mul_eq_zero.2 hzero
    rw [Exceeds, room_eq, h0]
    simp only [reduceCtorEq, false_iff]
    omega
  split
  · next hshort =>
    split
    · next hplaces =>
      have hsize : a.size * b.size < 0x100000000 * 0x100000000 := Nat.mul_lt_mul'' hshort.1 hshort.2
      have hten : tenTo 48 ≤ tenTo (a.scale + b.scale) := tenTo_le hplaces
      have h48 : tenTo 48 = 1000000000000000000000000000000000000000000000000 := rfl
      rw [Exceeds, room_eq]
      simp only [reduceCtorEq, false_iff]
      omega
    · rw [← reduce?_eq_none_iff]
      cases h : reduce? (a.size * b.size) (a.scale + b.scale) with
      | none => simp
      | some r => simpa [ofSize?] using hfits _ h
  · rw [← reduce?_eq_none_iff]
    cases h : reduce? (a.size * b.size) (a.scale + b.scale) with
    | none => simp
    | some r => simpa using hfits _ h

end Decimal

end TieredRates
