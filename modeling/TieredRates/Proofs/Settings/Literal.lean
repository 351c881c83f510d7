import TieredRates.Proofs.Record
import TieredRates.Proofs.Text.Digits
import TieredRates.Settings.Literal

namespace TieredRates.Literal

open Text

def IsNumeral (s : List Char) : Prop := s ≠ [] ∧ ∀ c ∈ s, c.isDigit

/-- The text writes a whole number. -/
inductive Writes : List Char → Int → Prop
  | plain {s : List Char} (h : IsNumeral s) : Writes s (value s)
  | plus {s : List Char} (h : IsNumeral s) : Writes ('+' :: s) (value s)
  | minus {s : List Char} (h : IsNumeral s) : Writes ('-' :: s) (-(value s : Int))

variable {most n m : Nat} {beyond : LiteralFault} {s : List Char}

theorem upTo_eq_ok_iff (hn : n ≤ most) :
    upTo most beyond n s = .ok m ↔ (∀ c ∈ s, c.isDigit) ∧ valueFrom n s = m ∧ m ≤ most := by
  induction s generalizing n with
  | nil =>
    simp only [upTo, Except.ok.injEq, List.not_mem_nil, false_implies, implies_true, true_and]
    constructor
    · rintro rfl
      exact ⟨rfl, hn⟩
    · rintro ⟨rfl, -⟩
      rfl
  | cons c s ih =>
    rw [upTo, List.forall_mem_cons, valueFrom_cons]
    by_cases hc : c.isDigit
    · by_cases hnext : 10 * n + digitValue c ≤ most
      · simp only [hc, hnext, if_true, true_and, ih hnext]
      · -- what follows never brings the number back below the limit
        have hbeyond : most < valueFrom (10 * n + digitValue c) s :=
          Nat.lt_of_lt_of_le (Nat.not_le.1 hnext) (le_valueFrom _ s)
        simp only [hc, hnext, if_true, if_false, reduceCtorEq, true_and, false_iff]
        rintro ⟨-, rfl, hm⟩
        exact Nat.not_le.2 hbeyond hm
    · simp [hc]

theorem magnitude_eq_ok_iff :
    magnitude most beyond s = .ok m ↔ IsNumeral s ∧ value s = m ∧ m ≤ most := by
  cases s with
  | nil => simp [magnitude, IsNumeral]
  | cons c s =>
    show upTo most beyond 0 (c :: s) = .ok m ↔ _
    rw [upTo_eq_ok_iff (Nat.zero_le most), IsNumeral, value, and_iff_right (List.cons_ne_nil c s)]

theorem writes_minus_iff {n : Int} :
    Writes ('-' :: s) n ↔ IsNumeral s ∧ n = -(value s : Int) := by
  constructor
  · intro h
    cases h with
    | plain h => exact absurd (h.2 '-' (by simp)) (by decide)
    | minus h => exact ⟨h, rfl⟩
  · rintro ⟨h, rfl⟩
    exact .minus h

theorem writes_plus_iff {n : Int} : Writes ('+' :: s) n ↔ IsNumeral s ∧ n = value s := by
  constructor
  · intro h
    cases h with
    | plain h => exact absurd (h.2 '+' (by simp)) (by decide)
    | plus h => exact ⟨h, rfl⟩
  · rintro ⟨h, rfl⟩
    exact .plus h

theorem writes_iff_of_no_sign {n : Int} (hminus : ∀ t, s ≠ '-' :: t) (hplus : ∀ t, s ≠ '+' :: t) :
    Writes s n ↔ IsNumeral s ∧ n = value s := by
  constructor
  · intro h
    cases h with
    | plain h => exact ⟨h, rfl⟩
    | plus h => exact absurd rfl (hplus _)
    | minus h => exact absurd rfl (hminus _)
  · rintro ⟨h, rfl⟩
    exact .plain h

/-- The text writes a number up to `most`, and not as one below zero. -/
structure IsNatural (most : Nat) (s : List Char) (n : Nat) : Prop where
  writes : Writes s n
  noMinus : s.head? ≠ some '-'
  fits : n ≤ most

theorem isNatural_iff_magnitude {t : List Char} (hminus : s.head? ≠ some '-')
    (h : Writes s n ↔ IsNumeral t ∧ (n : Int) = value t) :
    magnitude most beyond t = .ok n ↔ IsNatural most s n := by
  rw [magnitude_eq_ok_iff]
  constructor
  · rintro ⟨hnumeral, rfl, hfits⟩
    exact ⟨h.2 ⟨hnumeral, rfl⟩, hminus, hfits⟩
  · rintro ⟨hwrites, -, hfits⟩
    obtain ⟨hnumeral, hvalue⟩ := h.1 hwrites
    exact ⟨hnumeral, (Int.natCast_inj.1 hvalue).symm, hfits⟩

theorem natural_eq_ok_iff : natural most s = .ok n ↔ IsNatural most s n := by
  rw [natural.eq_def]
  split
  · simp only [reduceCtorEq, false_iff]
    intro h
    have hwrites := (writes_iff_of_no_sign (by simp) (by simp)).1 h.writes
    exact hwrites.1.1 rfl
  · exact isNatural_iff_magnitude (by simp) writes_plus_iff
  · next hplus =>
    by_cases hminus : s.head? = some '-'
    · obtain ⟨t, rfl⟩ := List.head?_eq_some_iff.1 hminus
      rw [magnitude_eq_ok_iff]
      refine iff_of_false (fun h ↦ ?_) fun h ↦ h.noMinus hminus
      exact absurd (h.1.2 '-' (by simp)) (by decide)
    · have hwrites : ∀ t, s ≠ '-' :: t := fun t ht ↦ hminus (ht ▸ rfl)
      exact isNatural_iff_magnitude hminus (writes_iff_of_no_sign hwrites hplus)

structure IsSeconds (s : List Char) (n : Int) : Prop where
  writes : Writes s n
  pos : 0 < n
  fits : n ≤ 0x7fffffffffffffff

inductive IsTruth : List Char → Bool → Prop
  | yes : IsTruth "true".toList true
  | no : IsTruth "false".toList false

theorem truth_eq_ok_iff {b : Bool} : truth s = .ok b ↔ IsTruth s b := by
  rw [truth]
  constructor
  · intro h
    split at h
    · next hs =>
      obtain rfl := Except.ok.inj h
      exact hs ▸ .yes
    · next hs =>
      split at h
      · next hs =>
        obtain rfl := Except.ok.inj h
        exact hs ▸ .no
      · nomatch h
  · rintro (_ | _)
    · rfl
    · rfl

theorem signed_eq_ok_iff {f : Int → Int} {n : Int} :
    ((magnitude most beyond s >>= fun m ↦ pure (m : Int)).map f = .ok n) ↔
      IsNumeral s ∧ value s ≤ most ∧ f (value s) = n := by
  constructor
  · intro h
    obtain ⟨k, hk, rfl⟩ := map_eq_ok_iff.1 h
    obtain ⟨m, hm, hcast⟩ := bind_eq_ok_iff.1 hk
    obtain ⟨hnumeral, rfl, hle⟩ := magnitude_eq_ok_iff.1 hm
    obtain rfl := Except.ok.inj hcast
    exact ⟨hnumeral, hle, rfl⟩
  · rintro ⟨hnumeral, hle, rfl⟩
    have hm : magnitude most beyond s = .ok (value s) := magnitude_eq_ok_iff.2 ⟨hnumeral, rfl, hle⟩
    rw [hm]
    rfl

theorem integer_eq_ok_iff {n : Int} : integer s = .ok n ↔
    Writes s n ∧ -0x8000000000000000 ≤ n ∧ n ≤ 0x7fffffffffffffff := by
  rw [integer.eq_def]
  split
  · simp only [reduceCtorEq, false_iff]
    rintro ⟨h, -⟩
    cases h with
    | plain h => exact h.1 rfl
  · rw [signed_eq_ok_iff, writes_minus_iff, and_assoc]
    refine and_congr_right fun _ ↦ ?_
    omega
  · rw [signed_eq_ok_iff, writes_plus_iff, and_assoc]
    refine and_congr_right fun _ ↦ ?_
    omega
  · next hminus hplus =>
    rw [signed_eq_ok_iff, writes_iff_of_no_sign hminus hplus, and_assoc]
    refine and_congr_right fun _ ↦ ?_
    omega

end TieredRates.Literal
