import TieredRates.Proofs.Text.Blank

namespace TieredRates.Text

variable {c : Char}

theorem isUpper_iff : c.isUpper ↔ 65 ≤ c.toNat ∧ c.toNat ≤ 90 := by
  show decide (c.val ≥ 'A'.val ∧ c.val ≤ 'Z'.val) = true ↔ _
  rw [decide_eq_true_eq, ge_iff_le, UInt32.le_iff_toNat_le, UInt32.le_iff_toNat_le]
  rfl

theorem isUpper_iff_between : c.isUpper ↔ 'A' ≤ c ∧ c ≤ 'Z' := by
  show decide (c.val ≥ 'A'.val ∧ c.val ≤ 'Z'.val) = true ↔ _
  rw [decide_eq_true_eq]
  rfl

theorem isLower_iff : c.isLower ↔ 97 ≤ c.toNat ∧ c.toNat ≤ 122 := by
  show (decide (c.val ≥ 'a'.val) && decide (c.val ≤ 'z'.val)) = true ↔ _
  rw [Bool.and_eq_true, decide_eq_true_eq, decide_eq_true_eq, ge_iff_le, UInt32.le_iff_toNat_le,
    UInt32.le_iff_toNat_le]
  rfl

theorem isAlpha_iff : c.isAlpha ↔ c.isUpper ∨ c.isLower := Bool.or_eq_true_iff

theorem isAlpha_of_toLower (h : c.toLower.isLower) : c.isAlpha := by
  by_cases hupper : c.isUpper
  · exact isAlpha_iff.2 (.inl hupper)
  · have hsame : c.toLower = c := by
      refine dif_neg fun hcapital ↦ hupper (isUpper_iff.2 ?_)
      rwa [ge_iff_le, UInt32.le_iff_toNat_le, UInt32.le_iff_toNat_le] at hcapital
    exact isAlpha_iff.2 (.inr (hsame ▸ h))

theorem toNat_toUpper (h : c.isLower) : c.toUpper.toNat = c.toNat - 32 := by
  obtain ⟨hlow, hhigh⟩ := isLower_iff.1 h
  have hsmall : 'a'.val ≤ c.val ∧ c.val ≤ 'z'.val := by
    rw [UInt32.le_iff_toNat_le, UInt32.le_iff_toNat_le]
    exact ⟨hlow, hhigh⟩
  have hraised : c.toUpper.val = c.val + ('A'.val - 'a'.val) := by
    delta Char.toUpper
    rw [dif_pos hsmall]
  have hsum : c.toUpper.toNat = (c.toNat + ('A'.val - 'a'.val).toNat) % 2 ^ 32 :=
    (congrArg UInt32.toNat hraised).trans (UInt32.toNat_add _ _)
  have hstep : ('A'.val - 'a'.val).toNat = 2 ^ 32 - 32 := by decide
  rw [hsum, hstep]
  omega

theorem toUpper_of_not_isLower (h : ¬ c.isLower) : c.toUpper = c := by
  refine dif_neg fun hsmall ↦ h (isLower_iff.2 ?_)
  rwa [UInt32.le_iff_toNat_le, UInt32.le_iff_toNat_le] at hsmall

theorem toUpper_of_isUpper (h : c.isUpper) : c.toUpper = c := by
  refine toUpper_of_not_isLower fun hlower ↦ ?_
  rw [isUpper_iff] at h
  rw [isLower_iff] at hlower
  omega

theorem isUpper_toUpper_iff : c.toUpper.isUpper ↔ c.isAlpha := by
  rw [isAlpha_iff]
  by_cases hlower : c.isLower
  · have hbounds := isLower_iff.1 hlower
    rw [isUpper_iff, toNat_toUpper hlower]
    exact iff_of_true (by omega) (.inr hlower)
  · rw [toUpper_of_not_isLower hlower, or_iff_left hlower]

theorem isBlank_of_isAlpha (h : c.isAlpha) : isBlank c = false := by
  rw [isAlpha_iff, isUpper_iff, isLower_iff] at h
  exact isBlank_of_visible (by omega) (by omega)

theorem isDigit_of_isAlpha (h : c.isAlpha) : c.isDigit = false := by
  rw [isAlpha_iff, isUpper_iff, isLower_iff] at h
  rw [Bool.eq_false_iff, ne_eq, Char.isDigit_iff_toNat]
  have hlow : '0'.toNat = 48 := rfl
  have hhigh : '9'.toNat = 57 := rfl
  omega

theorem bytes_ofList {cs : List Char} (h : ∀ c ∈ cs, c.toNat ≤ 127) :
    (String.ofList cs).toUTF8.data.toList = cs.map Char.toUInt8 := by
  have hbytes : cs.flatMap String.utf8EncodeChar = cs.map Char.toUInt8 := by
    induction cs with
    | nil => rfl
    | cons c cs ih =>
      obtain ⟨hc, hcs⟩ := List.forall_mem_cons.1 h
      have hsize : c.utf8Size = 1 := Char.utf8Size_eq_one_iff.2 (UInt32.le_iff_toNat_le.2 hc)
      rw [List.flatMap_cons, ih hcs, String.utf8EncodeChar_eq_singleton hsize]
      rfl
  rw [String.toUTF8_eq_toByteArray, String.toByteArray_ofList, List.utf8Encode, hbytes,
    List.toList_data_toByteArray]

end TieredRates.Text
