import Mathlib.Tactic.Ring
import TieredRates.Decimal.Quotient
import TieredRates.Proofs.Decimal.Product

namespace TieredRates.Decimal

theorem exceeds_congr {m n m' n' : Nat} (hn : 0 < n) (hn' : 0 < n') (h : m * n' = m' * n) :
    Exceeds m n ↔ Exceeds m' n' := by
  have hleft : Exceeds m n ↔ (2 * room - 1) * n * n' ≤ 2 * m * n' :=
    (Nat.mul_le_mul_right_iff hn').symm
  have hright : Exceeds m' n' ↔ (2 * room - 1) * n' * n ≤ 2 * m' * n :=
    (Nat.mul_le_mul_right_iff hn).symm
  rw [hleft, hright, Nat.mul_right_comm, Nat.mul_assoc 2 m, h, Nat.mul_assoc 2 m']

namespace Division

/-- Whether the quotient that the digits so far belong to is beyond the room. -/
def Exceeds (d : Division) (divisor : Nat) : Prop :=
  Decimal.Exceeds ((d.quotient * divisor + d.left) * tenTo (-d.scale).toNat)
    (divisor * tenTo d.scale.toNat)

structure Bounded (d : Division) (divisor : Nat) : Prop where
  quotient_lt : d.quotient < room
  left_lt : d.left < divisor
  scale_le : d.scale ≤ maxScale

variable {d e : Division} {divisor p : Nat}

theorem exceeds_iff_of_scale_nonneg (hs : 0 ≤ d.scale) : d.Exceeds divisor ↔
    (2 * room - 1) * (divisor * tenTo d.scale.toNat) ≤ 2 * (d.quotient * divisor + d.left) := by
  have h0 : (-d.scale).toNat = 0 := by omega
  rw [Exceeds, h0, tenTo_zero, Nat.mul_one, Decimal.Exceeds]

theorem exceeds_iff_of_digits (hpos : 0 < divisor) (hscale : e.scale = d.scale + p)
    (hdigits : e.quotient * divisor + e.left = (d.quotient * divisor + d.left) * tenTo p) :
    e.Exceeds divisor ↔ d.Exceeds divisor := by
  have hplaces : p + (-e.scale).toNat + d.scale.toNat = (-d.scale).toNat + e.scale.toNat := by omega
  have hten : tenTo p * tenTo (-e.scale).toNat * tenTo d.scale.toNat =
      tenTo (-d.scale).toNat * tenTo e.scale.toNat := by
    rw [← tenTo_add, ← tenTo_add, ← tenTo_add, hplaces]
  refine exceeds_congr (Nat.mul_pos hpos (tenTo_pos _)) (Nat.mul_pos hpos (tenTo_pos _)) ?_
  rw [hdigits]
  generalize d.quotient * divisor + d.left = n
  calc n * tenTo p * tenTo (-e.scale).toNat * (divisor * tenTo d.scale.toNat)
      = n * divisor * (tenTo p * tenTo (-e.scale).toNat * tenTo d.scale.toNat) := by ring
    _ = n * tenTo (-d.scale).toNat * (divisor * tenTo e.scale.toNat) := by rw [hten]; ring

theorem exceeds_of_room_le (hs : d.scale ≤ 0) (hq : room ≤ d.quotient) : d.Exceeds divisor := by
  have h0 : d.scale.toNat = 0 := by omega
  have hmul : room * divisor ≤ d.quotient * divisor := Nat.mul_le_mul_right _ hq
  have hten : d.quotient * divisor + d.left ≤
      (d.quotient * divisor + d.left) * tenTo (-d.scale).toNat :=
    Nat.le_mul_of_pos_right _ (tenTo_pos _)
  rw [Exceeds, Decimal.Exceeds, h0, tenTo_zero, Nat.mul_one]
  rw [room_eq] at *
  omega

theorem not_exceeds_of_lt (hs : 0 < d.scale) (hleft : d.left < divisor)
    (hq : d.quotient < 9 * room) : ¬ d.Exceeds divisor := by
  have hten : tenTo 1 ≤ tenTo d.scale.toNat := tenTo_le (by omega)
  have h1 : tenTo 1 = 10 := rfl
  have hplace : divisor * 10 ≤ divisor * tenTo d.scale.toNat := Nat.mul_le_mul_left _ (h1 ▸ hten)
  have hmul : (d.quotient + 1) * divisor ≤ 9 * room * divisor := Nat.mul_le_mul_right _ hq
  rw [Nat.add_mul, Nat.one_mul] at hmul
  rw [exceeds_iff_of_scale_nonneg (Int.le_of_lt hs)]
  rw [room_eq] at *
  omega

end Division

/-- What a round leads to fits the quotient: there is no answer exactly if the quotient is beyond
the room, an answer has room, and another round is about the same quotient. -/
def Round.Fits (divisor : Nat) (d : Division) : Round → Prop
  | .answer none => d.Exceeds divisor
  | .answer (some r) => ¬ d.Exceeds divisor ∧ r.1 < room ∧ r.2.1 ≤ maxScale
  | .again e => e.Bounded divisor ∧ (e.Exceeds divisor ↔ d.Exceeds divisor)

variable {d : Division} {divisor : Nat}

theorem Round.Fits.of_same {e : Division} {r : Round} (h : r.Fits divisor e)
    (hsame : e.Exceeds divisor ↔ d.Exceeds divisor) : r.Fits divisor d := by
  rcases r with (_ | r) | e'
  · exact hsame.1 h
  · exact ⟨mt hsame.2 h.1, h.2⟩
  · exact ⟨h.1, h.2.trans hsame⟩

theorem not_of_find?_reverse_range {P : Nat → Bool} {n k : Nat} (hk : k < n)
    (h : ((List.range n).reverse.find? P).getD 0 < k) : P k = false := by
  induction n with
  | zero => omega
  | succ n ih =>
    rw [List.range_succ, List.reverse_append, List.reverse_singleton, List.singleton_append,
      List.find?_cons] at h
    cases hn : P n with
    | true =>
      simp only [hn, Option.getD_some] at h
      omega
    | false =>
      rw [hn] at h
      by_cases hlast : k = n
      · rw [hlast, hn]
      · exact ih (by omega) h

theorem room_le_of_roomFor {quotient : Nat} {scale : Int} (h : roomFor quotient scale < 9)
    (hs : scale + (roomFor quotient scale + 1 : Nat) ≤ maxScale) :
    room ≤ quotient * tenTo (roomFor quotient scale + 1) := by
  have hnot := not_of_find?_reverse_range (n := 10) (k := roomFor quotient scale + 1)
    (Nat.succ_lt_succ h) (Nat.lt_succ_self _)
  simp only [Bool.and_eq_false_iff, decide_eq_false_iff_not] at hnot
  exact Nat.le_of_not_lt (hnot.resolve_right (not_not_intro hs))

theorem lt_room_of_roomFor {quotient : Nat} {scale : Int} (h : roomFor quotient scale ≠ 0) :
    quotient * tenTo (roomFor quotient scale) < room ∧ roomFor quotient scale ≤ 9 := by
  rw [roomFor] at h ⊢
  cases hf : (List.range 10).reverse.find? fun p : Nat ↦
      quotient * tenTo p < room && decide (scale + p ≤ (maxScale : Int)) with
  | none => simp [hf] at h
  | some p =>
    have hmem := List.mem_of_find?_eq_some hf
    have hfits := List.find?_some hf
    simp only [List.mem_reverse, List.mem_range] at hmem
    simp only [Bool.and_eq_true, decide_eq_true_eq] at hfits
    exact ⟨hfits.1, Nat.le_of_lt_succ hmem⟩

theorem padRound_fits (h : d.Bounded divisor) (hleft : d.left = 0) :
    (padRound d).Fits divisor d := by
  have hpos : 0 < divisor := Nat.lt_of_le_of_lt (Nat.zero_le _) h.left_lt
  have hq := h.quotient_lt
  rw [padRound]
  split
  · next hs =>
    refine ⟨?_, hq, h.scale_le⟩
    have hten : divisor * 1 ≤ divisor * tenTo d.scale.toNat :=
      Nat.mul_le_mul_left _ (tenTo_pos _)
    have hmul : (d.quotient + 1) * divisor ≤ room * divisor := Nat.mul_le_mul_right _ hq
    rw [Nat.add_mul, Nat.one_mul] at hmul
    rw [Division.exceeds_iff_of_scale_nonneg hs, hleft]
    rw [room_eq] at *
    omega
  · next hs =>
    dsimp only
    generalize hp : min 9 (-d.scale).toNat = p
    have hplaces : d.scale + p ≤ 0 := by omega
    have hdigits : d.quotient * tenTo p * divisor + d.left =
        (d.quotient * divisor + d.left) * tenTo p := by
      rw [hleft]
      ring
    split
    · next hroom =>
      refine ⟨⟨hroom, h.left_lt, ?_⟩, ?_⟩
      · simp only [maxScale]
        omega
      · exact Division.exceeds_iff_of_digits hpos rfl hdigits
    · next hroom =>
      let e : Division := { d with quotient := d.quotient * tenTo p, scale := d.scale + p }
      have he : e.Exceeds divisor := Division.exceeds_of_room_le hplaces (Nat.le_of_not_lt hroom)
      exact (Division.exceeds_iff_of_digits hpos rfl hdigits).1 he

theorem giveUpPlace?_eq_none_iff {size : Nat} {scale : Int} {more : Bool} :
    giveUpPlace? size scale more = none ↔ scale ≤ 0 := by
  rw [giveUpPlace?]
  split
  · next hs => simp [hs]
  · next hs => simp [hs]

theorem giveUpPlace?_eq_some {size q : Nat} {scale s : Int} {more : Bool}
    (h : giveUpPlace? size scale more = some (q, s)) :
    0 < scale ∧ q ≤ size / 10 + 1 ∧ s = scale - 1 := by
  rw [giveUpPlace?] at h
  split at h
  · simp at h
  · next hs =>
    obtain ⟨rfl, rfl⟩ := Prod.mk.inj (Option.some.inj h)
    refine ⟨by omega, ?_, rfl⟩
    split <;> omega

theorem rounded_giveUpPlace?_fits {e : Division} {size : Nat} {more : Bool}
    (hleft : e.left < divisor) (hsize : room ≤ size) (hq : e.quotient ≤ size)
    (hlt : size < 2 * room) (hs : e.scale ≤ maxScale) (hrank : e.scale ≤ 0 → e.Exceeds divisor) :
    (rounded (giveUpPlace? size e.scale more)).Fits divisor e := by
  rw [rounded]
  cases h : giveUpPlace? size e.scale more with
  | none => exact hrank (giveUpPlace?_eq_none_iff.1 h)
  | some r =>
    obtain ⟨hpos, hr, hr'⟩ := giveUpPlace?_eq_some h
    refine ⟨Division.not_exceeds_of_lt hpos hleft ?_, ?_, ?_⟩
    · rw [room_eq] at *
      omega
    · show r.1 < room
      rw [room_eq] at *
      omega
    · show r.2 ≤ maxScale
      omega

theorem finish?_fits (h : d.Bounded divisor) (hs : 0 ≤ d.scale) :
    (rounded (finish? divisor d)).Fits divisor d := by
  have hleft := h.left_lt
  have hq := h.quotient_lt
  have hscale := h.scale_le
  have hten : divisor * 1 ≤ divisor * tenTo d.scale.toNat := Nat.mul_le_mul_left _ (tenTo_pos _)
  rw [finish?]
  split
  · next hup =>
    split
    · next hroom =>
      refine ⟨?_, hroom, hscale⟩
      have hmul : (d.quotient + 2) * divisor ≤ room * divisor := Nat.mul_le_mul_right _ hroom
      rw [Nat.add_mul] at hmul
      rw [Division.exceeds_iff_of_scale_nonneg hs]
      rw [room_eq] at *
      omega
    · next hroom =>
      refine rounded_giveUpPlace?_fits hleft (Nat.le_of_not_lt hroom) (Nat.le_succ _) ?_ hscale ?_
      · rw [room_eq] at *
        omega
      · intro hzero
        have h0 : d.scale.toNat = 0 := by omega
        have hlast : room * divisor ≤ (d.quotient + 1) * divisor :=
          Nat.mul_le_mul_right _ (Nat.le_of_not_lt hroom)
        rw [Nat.add_mul, Nat.one_mul] at hlast
        rw [Division.exceeds_iff_of_scale_nonneg hs, h0, tenTo_zero]
        rw [room_eq] at *
        omega
  · next hdown =>
    refine ⟨?_, hq, hscale⟩
    rw [Division.exceeds_iff_of_scale_nonneg hs]
    -- only the last number below the room could be rounded up to it, and it is odd
    rcases Nat.lt_or_ge (d.quotient + 1) room with hroom | hroom
    · have hmul : (d.quotient + 2) * divisor ≤ room * divisor := Nat.mul_le_mul_right _ hroom
      rw [Nat.add_mul] at hmul
      rw [room_eq] at *
      omega
    · have hlast : d.quotient = room - 1 := by
        rw [room_eq] at *
        omega
      rw [hlast] at hdown ⊢
      rw [room_eq] at *
      omega

theorem digits_exact (quotient left divisor p : Nat) :
    (quotient * tenTo p + left * tenTo p / divisor) * divisor + left * tenTo p % divisor =
      (quotient * divisor + left) * tenTo p := by
  have hmod := Nat.div_add_mod (left * tenTo p) divisor
  calc (quotient * tenTo p + left * tenTo p / divisor) * divisor + left * tenTo p % divisor
      = quotient * divisor * tenTo p +
          (divisor * (left * tenTo p / divisor) + left * tenTo p % divisor) := by ring
    _ = (quotient * divisor + left) * tenTo p := by rw [hmod]; ring

theorem digitsRound_fits (h : d.Bounded divisor) (hs : d.scale < maxScale) :
    (digitsRound divisor d (roomFor d.quotient d.scale)).Fits divisor d := by
  have hpos : 0 < divisor := Nat.lt_of_le_of_lt (Nat.zero_le _) h.left_lt
  have hscale := roomFor_le d.quotient d.scale (Int.le_of_lt hs)
  let extended (p : Nat) : Division := {
    quotient := d.quotient * tenTo p + d.left * tenTo p / divisor
    left := d.left * tenTo p % divisor
    scale := d.scale + p
    continued := true }
  have hsame : ∀ p, (extended p).Exceeds divisor ↔ d.Exceeds divisor := fun p ↦
    Division.exceeds_iff_of_digits hpos rfl (digits_exact d.quotient d.left divisor p)
  rw [digitsRound]
  split
  · next hfew =>
    have hroom := room_le_of_roomFor hfew.1 (by simp only [maxScale]; omega)
    refine (hsame (roomFor d.quotient d.scale + 1)).1 (Division.exceeds_of_room_le ?_ ?_)
    · show d.scale + (roomFor d.quotient d.scale + 1 : Nat) ≤ 0
      omega
    · exact Nat.le_trans hroom (Nat.le_add_right _ _)
  split
  · next hzero => exact finish?_fits h (by omega)
  · next hmany hp =>
    obtain ⟨hroom, hnine⟩ := lt_room_of_roomFor hp
    generalize roomFor d.quotient d.scale = p at *
    have hleft : d.left * tenTo p % divisor < divisor := Nat.mod_lt _ hpos
    dsimp only
    split
    · next hlt => exact ⟨⟨hlt, hleft, hscale⟩, hsame p⟩
    · next hge =>
      have hdigits : d.left * tenTo p / divisor < tenTo p := by
        rw [Nat.div_lt_iff_lt_mul hpos, Nat.mul_comm]
        exact Nat.mul_lt_mul_of_pos_left h.left_lt (tenTo_pos p)
      have hten : tenTo p ≤ 1000000000 := tenTo_le hnine
      have hfits : (rounded (giveUpPlace? (extended p).quotient (extended p).scale
          ((extended p).left ≠ 0))).Fits divisor (extended p) := by
        refine rounded_giveUpPlace?_fits hleft (Nat.le_of_not_lt hge) (Nat.le_refl _) ?_ hscale ?_
        · show d.quotient * tenTo p + d.left * tenTo p / divisor < 2 * room
          rw [room_eq] at *
          omega
        · intro hle
          exact Division.exceeds_of_room_le hle (Nat.le_of_not_lt hge)
      exact hfits.of_same (hsame p)

theorem round_fits (h : d.Bounded divisor) : (round divisor d).Fits divisor d := by
  rw [round]
  split
  · next hleft => exact padRound_fits h hleft
  split
  · next hs => exact digitsRound_fits h hs
  · next hs => exact finish?_fits h (by simp only [maxScale] at hs; omega)

theorem divide?_fits (h : d.Bounded divisor) :
    (Round.answer (divide? divisor d)).Fits divisor d := by
  induction d using divide?.induct divisor with
  | case1 d result hround =>
    have hfits := round_fits h
    rw [hround] at hfits
    rw [divide?]
    split
    · next hr =>
      obtain rfl := Round.answer.inj (hr.symm.trans hround)
      exact hfits
    · next hr => cases hr.symm.trans hround
  | case2 d e hround _ ih =>
    have hfits := round_fits h
    rw [hround] at hfits
    rw [divide?]
    split
    · next hr => cases hr.symm.trans hround
    · next hr =>
      obtain rfl := Round.again.inj (hr.symm.trans hround)
      exact (ih hfits.1).of_same hfits.2

theorem divide?_of_left_eq_zero (hleft : d.left = 0) (hs : 0 ≤ d.scale) :
    divide? divisor d = some (d.quotient, d.scale, d.continued) := by
  have hround : round divisor d = .answer (some (d.quotient, d.scale, d.continued)) := by
    rw [round, if_pos hleft, padRound, if_pos hs]
  rw [divide?]
  split
  · next hr => exact Round.answer.inj (hr.symm.trans hround)
  · next hr => cases hr.symm.trans hround

theorem stripBlock_le (n : Nat) (r : Nat × Nat) :
    (stripBlock n r).1 ≤ r.1 ∧ (stripBlock n r).2 ≤ r.2 := by
  rw [stripBlock]
  split
  · exact ⟨Nat.div_le_self _ _, Nat.sub_le _ _⟩
  · exact ⟨Nat.le_refl _, Nat.le_refl _⟩

theorem stripEight_le (r : Nat × Nat) : (stripEight r).1 ≤ r.1 ∧ (stripEight r).2 ≤ r.2 := by
  rw [stripEight]
  split
  · exact stripBlock_le 8 r
  · exact ⟨Nat.le_refl _, Nat.le_refl _⟩

theorem stripZeros_le (r : Nat × Nat) : (stripZeros r).1 ≤ r.1 ∧ (stripZeros r).2 ≤ r.2 := by
  have h₁ := stripEight_le r
  have h₂ := stripEight_le (stripEight r)
  have h₃ := stripEight_le (stripEight (stripEight r))
  have h₄ := stripBlock_le 4 (stripEight (stripEight (stripEight r)))
  have h₅ := stripBlock_le 2 (stripBlock 4 (stripEight (stripEight (stripEight r))))
  have h₆ := stripBlock_le 1 (stripBlock 2 (stripBlock 4 (stripEight (stripEight (stripEight r)))))
  rw [stripZeros]
  omega

variable {a b y : Decimal}

def start (a b : Decimal) : Division where
  quotient := a.size / b.size
  left := a.size % b.size
  scale := a.scale - b.scale
  continued := false

theorem bounded_start (hb : b.size ≠ 0) : (start a b).Bounded b.size where
  quotient_lt := Nat.lt_of_le_of_lt (Nat.div_le_self _ _) a.size_lt
  left_lt := Nat.mod_lt _ (Nat.pos_of_ne_zero hb)
  scale_le := by
    have hscale := a.scale_le
    simp only [start, maxScale]
    omega

theorem exceeds_start (hb : b.size ≠ 0) : (start a b).Exceeds b.size ↔
    Exceeds (a.size * tenTo b.scale) (b.size * tenTo a.scale) := by
  have hpos := Nat.pos_of_ne_zero hb
  have hplaces : (-(start a b).scale).toNat + a.scale = b.scale + (start a b).scale.toNat := by
    simp only [start]
    omega
  have hten : tenTo (-(start a b).scale).toNat * tenTo a.scale =
      tenTo b.scale * tenTo (start a b).scale.toNat := by
    rw [← tenTo_add, ← tenTo_add, hplaces]
  have hsize : a.size / b.size * b.size + a.size % b.size = a.size := by
    rw [Nat.mul_comm]
    exact Nat.div_add_mod _ _
  refine exceeds_congr (Nat.mul_pos hpos (tenTo_pos _)) (Nat.mul_pos hpos (tenTo_pos _)) ?_
  show (a.size / b.size * b.size + a.size % b.size) * _ * _ = _
  rw [hsize]
  calc a.size * tenTo (-(start a b).scale).toNat * (b.size * tenTo a.scale)
      = a.size * b.size * (tenTo (-(start a b).scale).toNat * tenTo a.scale) := by ring
    _ = a.size * tenTo b.scale * (b.size * tenTo (start a b).scale.toNat) := by rw [hten]; ring

theorem div?_eq_none_iff (hb : b.size ≠ 0) :
    a.div? b = none ↔ Exceeds (a.size * tenTo b.scale) (b.size * tenTo a.scale) := by
  have hfits := divide?_fits (bounded_start (a := a) hb)
  rw [← exceeds_start hb]
  rw [div?, if_neg hb]
  split
  · next ha =>
    have hnot : ¬ (start a b).Exceeds b.size := by
      have hpos := Nat.mul_pos (Nat.pos_of_ne_zero hb) (tenTo_pos a.scale)
      rw [exceeds_start hb, Exceeds, ha, room_eq]
      omega
    simpa using hnot
  · show (divide? b.size (start a b) >>= _) = none ↔ _
    cases h : divide? b.size (start a b) with
    | none =>
      rw [h] at hfits
      exact ⟨fun _ ↦ hfits, fun _ ↦ rfl⟩
    | some r =>
      rw [h] at hfits
      obtain ⟨hnot, hq, hs⟩ := hfits
      have hstrip := stripZeros_le (r.1, r.2.1.toNat)
      have hscale : r.2.1.toNat ≤ maxScale := by
        simp only [maxScale] at hs ⊢
        omega
      simp only [Option.bind_eq_bind, Option.bind_some, hnot, iff_false]
      split
      · rw [ofSize?, ofParts?_eq_some _ (Nat.lt_of_le_of_lt hstrip.1 hq)
          (Nat.le_trans hstrip.2 hscale)]
        simp
      · rw [ofSize?, ofParts?_eq_some _ hq hscale]
        simp

theorem div?_of_signs (hneg : y.negative = oppositeSigns a b) (hsize : y.size = a.size * b.size)
    (hscale : y.scale = a.scale + b.scale) (ha : a.size ≠ 0) (hb : b.size ≠ 0) :
    y.div? b = some a := by
  have hpos := Nat.pos_of_ne_zero hb
  have hy : y.size ≠ 0 := hsize ▸ Nat.mul_ne_zero ha hb
  have hquotient : y.size / b.size = a.size := by rw [hsize, Nat.mul_div_cancel _ hpos]
  have hleft : y.size % b.size = 0 := by rw [hsize, Nat.mul_mod_left]
  have hplaces : (y.scale : Int) - b.scale = a.scale := by omega
  have hsign : oppositeSigns y b = a.negative := by
    rw [oppositeSigns, hneg, oppositeSigns]
    cases a.negative <;> cases b.negative <;> rfl
  have hdivide : divide? b.size (start y b) = some (a.size, (a.scale : Int), false) := by
    rw [divide?_of_left_eq_zero hleft]
    · simp only [start, hquotient, hplaces]
    · simp only [start, hplaces]
      omega
  rw [div?, if_neg hb, if_neg hy]
  show (divide? b.size (start y b) >>= _) = _
  rw [hdivide, hsign]
  simp only [Option.bind_eq_bind, Option.bind_some, Bool.false_eq_true, if_false, Int.toNat_natCast,
    ofSize?_of_pos _ ha, ofParts?_self]

end TieredRates.Decimal
