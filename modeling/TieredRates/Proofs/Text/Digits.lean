import TieredRates.Power
import TieredRates.Text.Digits

namespace TieredRates.Text

@[simp] theorem value_digits (n : Nat) : value (digits n) = n := Nat.ofDigitChars_ten_toDigits

theorem isDigit_of_mem_digits {n : Nat} {c : Char} (h : c ∈ digits n) : c.isDigit :=
  Nat.isDigit_of_mem_toDigits (by decide) (by decide) h

theorem digits_ne_nil (n : Nat) : digits n ≠ [] := Nat.toDigits_ne_nil

theorem head?_digits_ne_zero {n : Nat} (h : 0 < n) : (digits n).head? ≠ some '0' := by
  induction n using Nat.strongRecOn with
  | ind n ih =>
    by_cases hn : n < 10
    · rw [digits, Nat.toDigits_of_lt_base hn]
      have hdigit : ∀ m < 10, 0 < m → m.digitChar ≠ '0' := by decide
      simpa using hdigit n hn h
    · have hshorter := ih (n / 10) (by omega) (by omega)
      obtain ⟨c, ds, hdigits⟩ := List.exists_cons_of_ne_nil (digits_ne_nil (n / 10))
      rw [hdigits] at hshorter
      rw [digits] at hdigits
      rw [digits, Nat.toDigits_of_base_le (by decide) (Nat.not_lt.1 hn), hdigits]
      exact hshorter

theorem valueFrom_replicate_zero (n k : Nat) :
    valueFrom n (List.replicate k '0') = tenTo k * n := Nat.ofDigitChars_replicate_zero

@[simp] theorem value_padded (width n : Nat) : value (padded width n) = n := by
  rw [padded, padLeft, value, valueFrom_append, valueFrom_replicate_zero, Nat.mul_zero]
  exact value_digits n

theorem isDigit_of_mem_padded {width n : Nat} {c : Char} (h : c ∈ padded width n) : c.isDigit := by
  rw [padded, padLeft, List.mem_append] at h
  rcases h with h | h
  · rw [(List.mem_replicate.1 h).2]
    decide
  · exact isDigit_of_mem_digits h

theorem padded_ne_nil (width n : Nat) : padded width n ≠ [] := by
  simp [padded, padLeft, digits_ne_nil]

theorem le_length_padded (width n : Nat) : width ≤ (padded width n).length := by
  simp only [padded, padLeft, List.length_append, List.length_replicate]
  omega

theorem length_padded {width n : Nat} (hw : 0 < width) (h : n < tenTo width) :
    (padded width n).length = width := by
  have hd : (digits n).length ≤ width := (Nat.length_toDigits_le_iff (by decide) hw).2 h
  simp only [padded, padLeft, List.length_append, List.length_replicate]
  omega

theorem le_valueFrom (n : Nat) (ds : List Char) : n ≤ valueFrom n ds := by
  induction ds generalizing n with
  | nil => exact Nat.le_refl n
  | cons c ds ih =>
    have h := ih (10 * n + digitValue c)
    rw [valueFrom_cons]
    omega

end TieredRates.Text
