import Mathlib.Data.List.Basic
import TieredRates.Calendar.Timestamp
import TieredRates.Proofs.Calendar.Civil
import TieredRates.Proofs.Text.Digits

namespace TieredRates

theorem Instant.ext_parts {t u : Instant} (hd : t.date = u.date) (hs : t.second = u.second)
    (hn : t.nano = u.nano) : t = u := by
  obtain ⟨_, _, _, _, _, _⟩ := t
  obtain ⟨_, _, _, _, _, _⟩ := u
  simp_all

namespace Calendar

open Text

theorem twoDigits?_cons {a b : Char} (ha : a.isDigit) (hb : b.isDigit) (s : List Char) :
    twoDigits? (a :: b :: s) = some (10 * digitValue a + digitValue b, s) := by
  simp [twoDigits?, ha, hb]

theorem twoDigits?_padded {n : Nat} (h : n < 100) (s : List Char) :
    twoDigits? (padded 2 n ++ s) = some (n, s) := by
  have hd : ∀ c ∈ padded 2 n, c.isDigit := fun c ↦ isDigit_of_mem_padded
  have hv := value_padded 2 n
  obtain ⟨a, b, hab⟩ := List.length_eq_two.1 (length_padded (by decide) h : (padded 2 n).length = 2)
  rw [hab] at hd hv ⊢
  refine (twoDigits?_cons (hd a (by simp)) (hd b (by simp)) s).trans ?_
  simpa [value] using hv

theorem fourDigits?_padded {n : Nat} (h : n < 10000) (s : List Char) :
    fourDigits? (padded 4 n ++ s) = some (n, s) := by
  have hd : ∀ c ∈ padded 4 n, c.isDigit := fun c ↦ isDigit_of_mem_padded
  have hv := value_padded 4 n
  obtain ⟨a, b, c, d, hp⟩ :=
    List.length_eq_four.1 (length_padded (by decide) h : (padded 4 n).length = 4)
  rw [hp] at hd hv ⊢
  simp only [fourDigits?, List.cons_append, List.nil_append, Option.bind_eq_bind, Option.bind_some,
    twoDigits?_cons (hd a (by simp)) (hd b (by simp)),
    twoDigits?_cons (hd c (by simp)) (hd d (by simp))]
  simp only [value, valueFrom_cons, valueFrom_nil] at hv
  congr
  omega

theorem nanos_padded {k n : Nat} (hk : 0 < k) (hk9 : k ≤ 9) (h : n < tenTo k) :
    nanos (padded k n) = n * tenTo (9 - k) := by
  have hlen := length_padded hk h
  rw [nanos, List.take_of_length_le (by omega), hlen, value, valueFrom_append,
    valueFrom_replicate_zero, ← value, value_padded, Nat.mul_comm]

theorem fraction?_point {k n : Nat} {c : Char} {s : List Char} (hk : 0 < k) (hk9 : k ≤ 9)
    (h : n < tenTo k) (hc : c.isDigit = false) :
    fraction? ('.' :: padded k n ++ c :: s) = some (n * tenTo (9 - k), c :: s) := by
  have hd : ∀ d ∈ padded k n, d.isDigit = true := fun d ↦ isDigit_of_mem_padded
  have hspan : spanDigits (padded k n ++ c :: s) = (padded k n, c :: s) := by
    rw [spanDigits, List.takeWhile_append_of_pos hd, List.dropWhile_append_of_pos hd]
    simp [hc]
  rw [List.cons_append, fraction?, hspan]
  split
  · next he => exact absurd (congrArg Prod.fst he) (padded_ne_nil k n)
  · next ds rest hne he =>
    obtain ⟨rfl, rfl⟩ := Prod.mk.inj he
    rw [nanos_padded hk hk9 h]

theorem fraction?_fractionChars (nano : Nat) {c : Char} (s : List Char) (hc : c.isDigit = false)
    (hp : c ≠ '.') : fraction? (fractionChars nano ++ c :: s) = some (nano % 1000000000, c :: s) := by
  have hn : nano % 1000000000 < 1000000000 := Nat.mod_lt _ (by decide)
  simp only [fractionChars]
  generalize nano % 1000000000 = n at hn
  have hpoint {k m : Nat} (hk : 0 < k) (hk9 : k ≤ 9) (hm : m < tenTo k) (hv : m * tenTo (9 - k) = n) :
      fraction? ('.' :: padded k m ++ c :: s) = some (n, c :: s) :=
    hv ▸ fraction?_point hk hk9 hm hc
  split
  · next h0 =>
    rw [List.nil_append, fraction?, h0]
    intro r hr
    exact hp (List.cons.inj hr).1
  split
  · next h6 =>
    have hlt : n / 1000000 < tenTo 3 := Nat.div_lt_of_lt_mul hn
    exact hpoint (by decide) (by decide) hlt (Nat.div_mul_cancel (Nat.dvd_of_mod_eq_zero h6))
  split
  · next h3 =>
    have hlt : n / 1000 < tenTo 6 := Nat.div_lt_of_lt_mul hn
    exact hpoint (by decide) (by decide) hlt (Nat.div_mul_cancel (Nat.dvd_of_mod_eq_zero h3))
  · exact hpoint (by decide) (by decide) hn (Nat.mul_one n)

theorem instant?_civil (t : Instant) :
    instant? t.date.civil ⟨t.second / 3600, t.second / 60 % 60,
      t.second % 60 + t.nano / 1000000000, t.nano % 1000000000⟩ 0 = some t := by
  have hs := t.second_lt
  have hn := t.nano_lt
  have hleap := t.leap_last
  have hexists : ClockTime.Exists ⟨t.second / 3600, t.second / 60 % 60,
      t.second % 60 + t.nano / 1000000000, t.nano % 1000000000⟩ := by
    refine ⟨?_, ?_, ?_, ?_⟩ <;> simp only <;> omega
  have hday : (t.date.dayNumber * 1440 + (t.second / 3600 : Nat) * 60 +
      (t.second / 60 % 60 : Nat) - 0) / 1440 = t.date.dayNumber := by omega
  simp only [instant?, dif_pos hexists, Date.ofCivil?_civil, Option.bind_eq_bind, Option.bind_some,
    hday, Date.ofDayNumber?_dayNumber]
  refine congrArg some (Instant.ext_parts rfl ?_ ?_)
  · show _ * 60 + min (t.second % 60 + t.nano / 1000000000) 59 = t.second
    omega
  · show t.nano % 1000000000 + (_ - min (t.second % 60 + t.nano / 1000000000) 59) * _ = t.nano
    omega

theorem readStrictInstant?_fields {year month day hour minute second nano : Nat} {offset : Int}
    {rest zone : List Char} {t : Instant} (hyear : year < 10000) (hmonth : month < 100)
    (hday : day < 100) (hhour : hour < 100) (hminute : minute < 100) (hsecond : second < 100)
    (hrest : fraction? rest = some (nano, zone)) (hzone : strictOffset? zone = some (offset, []))
    (ht : instant? ⟨year, month, day⟩ ⟨hour, minute, second, nano⟩ offset = some t) :
    readStrictInstant? (padded 4 year ++ '-' :: (padded 2 month ++ '-' :: (padded 2 day ++
      'T' :: (padded 2 hour ++ ':' :: (padded 2 minute ++ ':' :: (padded 2 second ++ rest)))))) =
      some t := by
  refine Option.bind_eq_some_iff.2 ⟨_, fourDigits?_padded hyear _, ?_⟩
  refine Option.bind_eq_some_iff.2 ⟨_, rfl, ?_⟩
  refine Option.bind_eq_some_iff.2 ⟨_, twoDigits?_padded hmonth _, ?_⟩
  refine Option.bind_eq_some_iff.2 ⟨_, rfl, ?_⟩
  refine Option.bind_eq_some_iff.2 ⟨_, twoDigits?_padded hday _, ?_⟩
  refine Option.bind_eq_some_iff.2 ⟨_, rfl, ?_⟩
  refine Option.bind_eq_some_iff.2 ⟨_, twoDigits?_padded hhour _, ?_⟩
  refine Option.bind_eq_some_iff.2 ⟨_, rfl, ?_⟩
  refine Option.bind_eq_some_iff.2 ⟨_, twoDigits?_padded hminute _, ?_⟩
  refine Option.bind_eq_some_iff.2 ⟨_, rfl, ?_⟩
  refine Option.bind_eq_some_iff.2 ⟨_, twoDigits?_padded hsecond _, ?_⟩
  refine Option.bind_eq_some_iff.2 ⟨_, hrest, ?_⟩
  exact Option.bind_eq_some_iff.2 ⟨_, hzone, ht⟩

theorem readStrictInstant?_of_not_isDigit {c : Char} (hc : c.isDigit = false) (s : List Char) :
    readStrictInstant? (c :: s) = none := by
  have h2 : twoDigits? (c :: s) = none := by cases s <;> simp [twoDigits?, hc]
  simp [readStrictInstant?, fourDigits?, h2]

end Calendar

namespace Instant

open Text Calendar

/-- The year is one of 0 to 9999. -/
def HasPlainYear (t : Instant) : Prop := 0 ≤ t.date.civil.year ∧ t.date.civil.year ≤ 9999

instance (t : Instant) : Decidable t.HasPlainYear := inferInstanceAs (Decidable (_ ∧ _))

theorem readStrictInstant?_stamp {t : Instant} (h : t.HasPlainYear) :
    readStrictInstant? (stamp 'T' "+00:00" t) = some t := by
  have hc : t.date.civil.Exists := Civil.exists_ofDayNumber _
  have hm := hc.2.1
  have hd := hc.day_lt
  have hs := t.second_lt
  have hn := t.nano_lt
  have hzone : strictOffset? "+00:00".toList = some (0, []) := rfl
  have hrest : fraction? (fractionChars t.nano ++ "+00:00".toList) =
      some (t.nano % 1000000000, "+00:00".toList) :=
    fraction?_fractionChars t.nano _ (by decide) (by decide)
  have hyear : ((t.date.civil.year.toNat : Nat) : Int) = t.date.civil.year :=
    Int.toNat_of_nonneg h.1
  have hchars : Civil.yearChars t.date.civil.year = padded 4 t.date.civil.year.toNat := if_pos h
  have hlast := h.2
  simp only [stamp, Date.chars, Civil.chars, clockChars, hchars, List.append_assoc,
    List.cons_append]
  refine readStrictInstant?_fields (by omega) (by omega) hd (by omega) (by omega) (by omega) hrest
    hzone ?_
  rw [hyear]
  exact instant?_civil t

theorem readStrictInstant?_stamp_eq_none {t : Instant} (h : ¬ t.HasPlainYear) :
    readStrictInstant? (stamp 'T' "+00:00" t) = none := by
  have hchars : ∃ c s, Civil.yearChars t.date.civil.year = c :: s ∧ c.isDigit = false :=
    ⟨_, _, if_neg h, by split <;> decide⟩
  obtain ⟨c, s, hy, hc⟩ := hchars
  simp only [stamp, Date.chars, Civil.chars, hy, List.cons_append]
  exact readStrictInstant?_of_not_isDigit hc _

end Instant

end TieredRates
