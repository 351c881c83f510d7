import TieredRates.Proofs.Calendar.Timestamp
import TieredRates.Proofs.Text.Blank

namespace TieredRates

namespace Text

def EndsDigits (s : List Char) : Prop := ∀ c ∈ s.head?, c.isDigit = false

theorem endsDigits_nil : EndsDigits [] := nofun

theorem endsDigits_cons {c : Char} (hc : c.isDigit = false) (s : List Char) :
    EndsDigits (c :: s) := by
  intro d hd
  obtain rfl : c = d := Option.some.inj hd
  exact hc

theorem takeDigits_digits {most : Nat} {ds s : List Char} (hd : ∀ d ∈ ds, d.isDigit)
    (hlen : ds.length ≤ most) (hs : EndsDigits s) : takeDigits most (ds ++ s) = (ds, s) := by
  induction ds generalizing most with
  | nil =>
    cases s with
    | nil => cases most <;> rfl
    | cons c s => cases most <;> simp [takeDigits, hs c rfl]
  | cons d ds ih =>
    cases most with
    | zero => simp at hlen
    | succ most =>
      have hrest := ih (fun e he ↦ hd e (by simp [he])) (Nat.le_of_succ_le_succ hlen)
      simp [takeDigits, hd d (by simp), hrest]

theorem exists_padded_eq_cons (width n : Nat) :
    ∃ c ds, padded width n = c :: ds ∧ c.isDigit := by
  obtain ⟨c, ds, h⟩ := List.exists_cons_of_ne_nil (padded_ne_nil width n)
  exact ⟨c, ds, h, isDigit_of_mem_padded (h ▸ List.mem_cons_self)⟩

theorem skipBlanks_padded (width n : Nat) (s : List Char) :
    skipBlanks (padded width n ++ s) = padded width n ++ s := by
  obtain ⟨c, ds, h, hc⟩ := exists_padded_eq_cons width n
  rw [h]
  exact skipBlanks_of_not_isBlank (isBlank_of_isDigit hc) _

end Text

namespace Calendar

open Text

theorem number?_padded {most width n : Nat} {s : List Char} (hlen : (padded width n).length ≤ most)
    (hs : EndsDigits s) : number? most (padded width n ++ s) = some (n, s) := by
  rw [number?, takeDigits_digits (fun d ↦ isDigit_of_mem_padded) hlen hs]
  split
  · next he => exact absurd (congrArg Prod.fst he) (padded_ne_nil width n)
  · next he =>
    obtain ⟨rfl, rfl⟩ := Prod.mk.inj he
    rw [value_padded]

theorem field?_padded {n : Nat} {s : List Char} (h : n < 100) (hs : EndsDigits s) :
    field? (padded 2 n ++ s) = some (n, s) := by
  have hlen : (padded 2 n).length = 2 := length_padded (by decide) h
  rw [field?, skipBlanks_padded, number?_padded (Nat.le_of_eq hlen) hs]

section Year

variable {s : List Char} (hs : EndsDigits s)
include hs

theorem year?_padded {n : Nat} (h : n < 10000) : year? (padded 4 n ++ s) = some ((n : Int), s) := by
  have hlen : (padded 4 n).length = 4 := length_padded (by decide) h
  have hnumber := number?_padded (Nat.le_of_eq hlen) hs
  rw [year?, skipBlanks_padded]
  obtain ⟨d, ds, hd, hdigit⟩ := exists_padded_eq_cons 4 n
  rw [hd, List.cons_append] at hnumber ⊢
  split
  · next heq =>
    obtain ⟨rfl, -⟩ := List.cons.inj heq
    exact absurd hdigit (by decide)
  · next heq =>
    obtain ⟨rfl, -⟩ := List.cons.inj heq
    exact absurd hdigit (by decide)
  · rw [hnumber, Option.map_some]

theorem year?_minus (n : Nat) : year? ('-' :: padded 4 n ++ s) = some (-(n : Int), s) := by
  have hblank : skipBlanks ('-' :: padded 4 n ++ s) = '-' :: (padded 4 n ++ s) :=
    skipBlanks_of_not_isBlank rfl _
  have hlen : (padded 4 n).length ≤ (padded 4 n ++ s).length := by simp
  simp only [year?, hblank, number?_padded hlen hs, Option.map_some]

theorem year?_plus (n : Nat) : year? ('+' :: padded 4 n ++ s) = some ((n : Int), s) := by
  have hblank : skipBlanks ('+' :: padded 4 n ++ s) = '+' :: (padded 4 n ++ s) :=
    skipBlanks_of_not_isBlank rfl _
  have hlen : (padded 4 n).length ≤ (padded 4 n ++ s).length := by simp
  simp only [year?, hblank, number?_padded hlen hs, Option.map_some]

theorem year?_yearChars (year : Int) : year? (Civil.yearChars year ++ s) = some (year, s) := by
  rw [Civil.yearChars]
  split
  · next h =>
    rw [year?_padded hs (by omega), Int.toNat_of_nonneg h.1]
  · split
    · next hneg =>
      have hyear : -(year.natAbs : Int) = year := by omega
      rw [year?_minus hs year.natAbs, hyear]
    · next hneg =>
      have hyear : (year.natAbs : Int) = year := by omega
      rw [year?_plus hs year.natAbs, hyear]

end Year

theorem after?_skipBlanks {d : Char} (hd : isBlank d = false) (s : List Char) :
    after? d (skipBlanks (d :: s)) = some s := by
  rw [skipBlanks_of_not_isBlank hd, after?, if_pos rfl]

theorem looseCivil?_chars {date : Civil} {s : List Char} (hdate : date.Exists) (hs : EndsDigits s) :
    looseCivil? (date.chars ++ s) = some (date, s) := by
  have hmonth : date.month < 100 := Nat.lt_of_le_of_lt hdate.2.1 (by decide)
  simp only [Civil.chars, List.append_assoc, List.cons_append]
  refine Option.bind_eq_some_iff.2 ⟨_, year?_yearChars (endsDigits_cons rfl _) date.year, ?_⟩
  refine Option.bind_eq_some_iff.2 ⟨_, after?_skipBlanks rfl _, ?_⟩
  refine Option.bind_eq_some_iff.2 ⟨_, field?_padded hmonth (endsDigits_cons rfl _), ?_⟩
  refine Option.bind_eq_some_iff.2 ⟨_, after?_skipBlanks rfl _, ?_⟩
  exact Option.bind_eq_some_iff.2 ⟨_, field?_padded hdate.day_lt hs, rfl⟩

theorem readLoose?_chars (d : Date) : readLoose? d.chars = some d := by
  have hcivil := looseCivil?_chars (Civil.exists_ofDayNumber d.dayNumber) endsDigits_nil
  rw [List.append_nil] at hcivil
  rw [readLoose?, Date.chars, Date.civil, hcivil]
  exact d.ofCivil?_civil

theorem readInstant?_fields {date : Civil} {hour minute second nano : Nat} {rest : List Char}
    {zone : List Char} {t : Instant} (hdate : date.Exists)
    (hhour : hour < 100) (hminute : minute < 100) (hsecond : second < 100)
    (hrest : EndsDigits rest)
    (hnano : fraction? rest = some (nano, zone))
    (hzone : looseOffset? (skipBlanks zone) = some (0, []))
    (ht : instant? date ⟨hour, minute, second, nano⟩ 0 = some t) :
    readInstant? (date.chars ++ 'T' :: (padded 2 hour ++ ':' :: (padded 2 minute ++
      ':' :: (padded 2 second ++ rest)))) = some t := by
  refine Option.bind_eq_some_iff.2 ⟨_, looseCivil?_chars hdate (endsDigits_cons rfl _), ?_⟩
  refine Option.bind_eq_some_iff.2 ⟨_, rfl, ?_⟩
  refine Option.bind_eq_some_iff.2 ⟨_, field?_padded hhour (endsDigits_cons rfl _), ?_⟩
  refine Option.bind_eq_some_iff.2 ⟨_, after?_skipBlanks rfl _, ?_⟩
  refine Option.bind_eq_some_iff.2 ⟨_, field?_padded hminute (endsDigits_cons rfl _), ?_⟩
  refine Option.bind_eq_some_iff.2 ⟨_, after?_skipBlanks rfl _, ?_⟩
  refine Option.bind_eq_some_iff.2 ⟨_, field?_padded hsecond hrest, ?_⟩
  refine Option.bind_eq_some_iff.2 ⟨_, hnano, ?_⟩
  exact Option.bind_eq_some_iff.2 ⟨_, hzone, ht⟩

end Calendar

namespace Instant

open Text Calendar

theorem endsDigits_fractionChars (nano : Nat) {c : Char} (s : List Char) (hc : c.isDigit = false) :
    EndsDigits (fractionChars nano ++ c :: s) := by
  rw [fractionChars]
  split
  · exact endsDigits_cons hc s
  · split
    · exact endsDigits_cons rfl _
    · split <;> exact endsDigits_cons rfl _

theorem readInstant?_stamp (t : Instant) : readInstant? (stamp 'T' "Z" t) = some t := by
  have hexists : t.date.civil.Exists := Civil.exists_ofDayNumber _
  have hs := t.second_lt
  have hn := t.nano_lt
  have hzone : "Z".toList = ['Z'] := rfl
  simp only [stamp, Date.chars, clockChars, List.append_assoc, List.cons_append, hzone]
  exact readInstant?_fields hexists (by omega) (by omega) (by omega)
    (endsDigits_fractionChars t.nano [] rfl)
    (fraction?_fractionChars t.nano [] rfl (by decide)) rfl (instant?_civil t)

theorem ofText?_text (t : Instant) : ofText? t.text = some t := by
  rw [ofText?, text, String.toList_ofList, readInstant?_stamp]

end Instant

end TieredRates
