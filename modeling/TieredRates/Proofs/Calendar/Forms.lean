import TieredRates.Feed.Observation
import TieredRates.Proofs.Calendar.LooseTimestamp
import TieredRates.Proofs.Calendar.MonthNames
import TieredRates.Proofs.Calendar.Order
import TieredRates.Proofs.Text.Blank

namespace TieredRates

open Text

namespace Calendar

section Readers

variable {s t : List Char} {d : Date} {long : Bool}

theorem after?_eq_some_iff {c : Char} : after? c s = some t ↔ s = c :: t := by
  cases s with
  | nil => exact iff_of_false nofun nofun
  | cons x s => rw [after?, Option.ite_none_right_eq_some, List.cons.injEq, Option.some.injEq]

theorem whole?_eq_some_iff {r : Option (Civil × List Char)} :
    whole? r = some d ↔ ∃ c, r = some (c, []) ∧ Date.ofCivil? c = some d := by
  rw [whole?.eq_def]
  constructor
  · intro h
    split at h
    · exact ⟨_, rfl, h⟩
    · nomatch h
  · rintro ⟨c, rfl, h⟩
    exact h

theorem dashed_eq_some_iff {α β γ : Type} {first : List Char → Option (α × List Char)}
    {second : List Char → Option (β × List Char)} {third : List Char → Option (γ × List Char)}
    (make : α → β → γ → Civil) {c : Civil} {rest : List Char} :
    (do let (x, s) ← first s
        let (y, s) ← second (← after? '-' s)
        let (z, s) ← third (← after? '-' s)
        return (make x y z, s)) = some (c, rest) ↔
      ∃ x y z t u, first s = some (x, '-' :: t) ∧ second t = some (y, '-' :: u) ∧
        third u = some (z, rest) ∧ make x y z = c := by
  constructor
  · intro h
    obtain ⟨⟨x, s⟩, hfirst, h⟩ := Option.bind_eq_some_iff.1 h
    obtain ⟨t, ht, h⟩ := Option.bind_eq_some_iff.1 h
    obtain ⟨⟨y, s'⟩, hsecond, h⟩ := Option.bind_eq_some_iff.1 h
    obtain ⟨u, hu, h⟩ := Option.bind_eq_some_iff.1 h
    obtain ⟨⟨z, rest⟩, hthird, h⟩ := Option.bind_eq_some_iff.1 h
    obtain ⟨rfl, rfl⟩ := Prod.mk.inj (Option.some.inj h)
    obtain rfl := after?_eq_some_iff.1 ht
    obtain rfl := after?_eq_some_iff.1 hu
    exact ⟨x, y, z, t, u, hfirst, hsecond, hthird, rfl⟩
  · rintro ⟨x, y, z, t, u, hfirst, hsecond, hthird, rfl⟩
    refine Option.bind_eq_some_iff.2 ⟨_, hfirst, ?_⟩
    refine Option.bind_eq_some_iff.2 ⟨_, after?_eq_some_iff.2 rfl, ?_⟩
    refine Option.bind_eq_some_iff.2 ⟨_, hsecond, ?_⟩
    refine Option.bind_eq_some_iff.2 ⟨_, after?_eq_some_iff.2 rfl, ?_⟩
    exact Option.bind_eq_some_iff.2 ⟨_, hthird, rfl⟩

theorem readNamed?_eq_some_iff : readNamed? long s = some d ↔ ∃ month day year t u,
    month? long s = some (month, '-' :: t) ∧ field? t = some (day, '-' :: u) ∧
      year? u = some (year, []) ∧ Date.ofCivil? ⟨year, month, day⟩ = some d := by
  rw [readNamed?, whole?_eq_some_iff]
  constructor
  · rintro ⟨c, h, hd⟩
    obtain ⟨month, day, year, t, u, hmonth, hday, hyear, rfl⟩ :=
      (dashed_eq_some_iff fun month day year ↦ ⟨year, month, day⟩).1 h
    exact ⟨month, day, year, t, u, hmonth, hday, hyear, hd⟩
  · rintro ⟨month, day, year, t, u, hmonth, hday, hyear, hd⟩
    refine ⟨_, (dashed_eq_some_iff fun month day year ↦ ⟨year, month, day⟩).2 ?_, hd⟩
    exact ⟨month, day, year, t, u, hmonth, hday, hyear, rfl⟩

theorem readNumeric?_eq_some_iff : readNumeric? s = some d ↔ ∃ year month day t u,
    year? s = some (year, '-' :: t) ∧ field? t = some (month, '-' :: u) ∧
      field? u = some (day, []) ∧ Date.ofCivil? ⟨year, month, day⟩ = some d := by
  rw [readNumeric?, whole?_eq_some_iff]
  constructor
  · rintro ⟨c, h, hd⟩
    obtain ⟨year, month, day, t, u, hyear, hmonth, hday, rfl⟩ := (dashed_eq_some_iff Civil.mk).1 h
    exact ⟨year, month, day, t, u, hyear, hmonth, hday, hd⟩
  · rintro ⟨year, month, day, t, u, hyear, hmonth, hday, hd⟩
    refine ⟨_, (dashed_eq_some_iff Civil.mk).2 ?_, hd⟩
    exact ⟨year, month, day, t, u, hyear, hmonth, hday, rfl⟩

theorem readNamed?_long (h : readNamed? false s = some d) : readNamed? true s = some d := by
  rw [readNamed?_eq_some_iff] at h ⊢
  obtain ⟨month, day, year, t, u, hmonth, hfields⟩ := h
  exact ⟨month, day, year, t, u, monthFrom?_long tail_of_mem_monthNames hmonth, hfields⟩

theorem readNumeric?_of_readNamed? (h : readNamed? long s = some d) : readNumeric? s = none := by
  obtain ⟨month, day, year, t, u, hmonth, -⟩ := readNamed?_eq_some_iff.1 h
  obtain ⟨c, rest, rfl, hc⟩ := exists_letter_of_month? hmonth
  refine Option.eq_none_iff_forall_ne_some.2 fun e he ↦ ?_
  obtain ⟨year, month, day, t, u, hyear, -⟩ := readNumeric?_eq_some_iff.1 he
  rw [year?_of_isAlpha hc] at hyear
  nomatch hyear

end Readers

end Calendar

inductive DateForm where
  | fullName
  | shortName
  | numeric
deriving DecidableEq

namespace DateForm

open Calendar

def read? : DateForm → List Char → Option Date
  | fullName => readNamed? true
  | shortName => readNamed? false
  | numeric => readNumeric?

variable {f g : DateForm} {s : List Char} {d e : Date}

theorem named_or_numeric (h : f.read? s = some d) :
    readNamed? true s = some d ∨ readNumeric? s = some d := by
  cases f with
  | fullName => exact .inl h
  | shortName => exact .inl (readNamed?_long h)
  | numeric => exact .inr h

theorem agree (hf : f.read? s = some d) (hg : g.read? s = some e) : d = e := by
  -- what the short name reads the full one reads as well, and a name never begins with a digit
  rcases named_or_numeric hf with hd | hd <;> rcases named_or_numeric hg with he | he
  · exact Option.some.inj (hd.symm.trans he)
  · nomatch he.symm.trans (readNumeric?_of_readNamed? hd)
  · nomatch hd.symm.trans (readNumeric?_of_readNamed? he)
  · exact Option.some.inj (hd.symm.trans he)

theorem findSome?_eq_some_iff {fs : List DateForm} :
    fs.findSome? (read? · s) = some d ↔ ∃ f ∈ fs, f.read? s = some d := by
  constructor
  · exact List.exists_of_findSome?_eq_some
  · rintro ⟨f, hf, hd⟩
    cases hfound : fs.findSome? (read? · s) with
    | none => nomatch hd.symm.trans (List.findSome?_eq_none_iff.1 hfound f hf)
    | some e =>
      obtain ⟨g, -, he⟩ := List.exists_of_findSome?_eq_some hfound
      rw [agree he hd]

end DateForm

namespace Civil

open Calendar

/-- The text writes the day in one of the forms: two digits for a month or a day, four for a year,
and the name of a month in any case of its letters. -/
inductive Spells (c : Civil) : List Char → Prop
  | fullName {name : List Char} (h : lower name = lower (englishMonth c.month)) :
      Spells c (name ++ '-' :: (padded 2 c.day ++ '-' :: padded 4 c.year.toNat))
  | shortName {name : List Char} (h : lower name = lower ((englishMonth c.month).take 3)) :
      Spells c (name ++ '-' :: (padded 2 c.day ++ '-' :: padded 4 c.year.toNat))
  | numeric : Spells c (padded 4 c.year.toNat ++ '-' :: (padded 2 c.month ++ '-' :: padded 2 c.day))

variable {c : Civil} {body name : List Char} {x : Char}

theorem isLower_of_mem_englishMonth {month : Nat} (h : x ∈ lower (englishMonth month)) :
    x.isLower := by
  rw [englishMonth] at h
  cases hmonth : englishMonths[month - 1]? with
  | none => simp [hmonth, lower] at h
  | some s =>
    rw [hmonth] at h
    exact isLower_of_mem_englishMonths s (List.mem_of_getElem? hmonth) x h

theorem isBlank_of_mem_padded {width n : Nat} (h : x ∈ padded width n) : isBlank x = false :=
  isBlank_of_isDigit (isDigit_of_mem_padded h)

theorem isBlank_of_mem_named {month day year : Nat} (h : lower name ⊆ lower (englishMonth month)) :
    ∀ x ∈ name ++ '-' :: (padded 2 day ++ '-' :: padded 4 year), isBlank x = false := by
  simp only [List.forall_mem_append, List.forall_mem_cons]
  refine ⟨fun x hx ↦ ?_, by decide, fun x ↦ isBlank_of_mem_padded, by decide,
    fun x ↦ isBlank_of_mem_padded⟩
  have hlower := isLower_of_mem_englishMonth (h (List.mem_map.2 ⟨x, hx, rfl⟩))
  exact isBlank_of_isAlpha (isAlpha_of_toLower hlower)

theorem Spells.isBlank (h : c.Spells body) : ∀ x ∈ body, isBlank x = false := by
  cases h with
  | @fullName name h =>
    have hname : lower name ⊆ lower (englishMonth c.month) := by
      rw [h]
      exact List.Subset.refl _
    exact isBlank_of_mem_named hname
  | @shortName name h =>
    have hname : lower name ⊆ lower (englishMonth c.month) := by
      rw [h, lower, List.map_take]
      exact List.take_subset 3 _
    exact isBlank_of_mem_named hname
  | numeric =>
    simp only [List.forall_mem_append, List.forall_mem_cons]
    exact ⟨fun x ↦ isBlank_of_mem_padded, by decide, fun x ↦ isBlank_of_mem_padded, by decide,
      fun x ↦ isBlank_of_mem_padded⟩

section Reading

variable {d : Date} (hexists : c.Exists) (hfirst : 0 ≤ c.year) (hlast : c.year ≤ 9999)
variable (hd : Date.ofCivil? c = some d)

include hexists hfirst hlast hd

theorem readNamed?_spelling {long : Bool}
    (hmonth : ∀ rest, month? long (name ++ '-' :: rest) = some (c.month, '-' :: rest)) :
    readNamed? long (name ++ '-' :: (padded 2 c.day ++ '-' :: padded 4 c.year.toNat)) = some d := by
  have hends : EndsDigits ('-' :: padded 4 c.year.toNat) := endsDigits_cons rfl _
  have hday := field?_padded hexists.day_lt hends
  have hyear := year?_padded endsDigits_nil (show c.year.toNat < 10000 by omega)
  rw [List.append_nil, Int.toNat_of_nonneg hfirst] at hyear
  exact readNamed?_eq_some_iff.2 ⟨_, _, _, _, _, hmonth _, hday, hyear, hd⟩

theorem readNumeric?_spelling :
    readNumeric? (padded 4 c.year.toNat ++ '-' :: (padded 2 c.month ++ '-' :: padded 2 c.day)) =
      some d := by
  have hmonthLt : c.month < 100 := Nat.lt_of_le_of_lt hexists.2.1 (by decide)
  have hendsYear : EndsDigits ('-' :: (padded 2 c.month ++ '-' :: padded 2 c.day)) :=
    endsDigits_cons rfl _
  have hendsMonth : EndsDigits ('-' :: padded 2 c.day) := endsDigits_cons rfl _
  have hyear := year?_padded hendsYear (show c.year.toNat < 10000 by omega)
  have hmonth := field?_padded hmonthLt hendsMonth
  have hday := field?_padded hexists.day_lt endsDigits_nil
  rw [List.append_nil] at hday
  rw [Int.toNat_of_nonneg hfirst] at hyear
  exact readNumeric?_eq_some_iff.2 ⟨_, _, _, _, _, hyear, hmonth, hday, hd⟩

theorem Spells.exists_read? (h : c.Spells body) : ∃ f : DateForm, f.read? body = some d := by
  obtain ⟨hpos, hle, -⟩ := id hexists
  cases h with
  | fullName h =>
    refine ⟨.fullName, readNamed?_spelling hexists hfirst hlast hd fun rest ↦ ?_⟩
    exact month?_fullName hpos hle h
  | shortName h =>
    refine ⟨.shortName, readNamed?_spelling hexists hfirst hlast hd fun rest ↦ ?_⟩
    exact month?_shortName hpos hle h
  | numeric => exact ⟨.numeric, readNumeric?_spelling hexists hfirst hlast hd⟩

end Reading

end Civil

namespace Date

open Calendar DateForm

variable {s before body after : List Char} {c : Civil} {d : Date}

theorem ofAnyForm?_eq (s : List Char) : ofAnyForm? s =
    [DateForm.fullName, .shortName, .numeric].findSome? (read? · (trim s)) := by
  rw [ofAnyForm?]
  simp only [List.findSome?_cons, List.findSome?_nil, read?]
  cases readNamed? true (trim s) with
  | some d => rfl
  | none =>
    cases readNamed? false (trim s) with
    | some d => rfl
    | none => cases readNumeric? (trim s) <;> rfl

theorem ofAnyForm?_eq_some_iff :
    ofAnyForm? s = some d ↔ ∃ f : DateForm, f.read? (trim s) = some d := by
  rw [ofAnyForm?_eq, findSome?_eq_some_iff]
  refine exists_congr fun f ↦ and_iff_right ?_
  cases f <;> simp

/-- Every spelling of a day is read as that day, a text is read as one day at most in whatever
form, so the forms may be tried in any order, and the days are in the order of the calendar. -/
theorem ofAnyForm?_spellings :
    (∀ c : Civil, c.Exists → 0 ≤ c.year → c.year ≤ 9999 → ∃ d : Date, d.civil = c ∧
      ∀ before body after, (∀ x ∈ before, isBlank x) → c.Spells body → (∀ x ∈ after, isBlank x) →
        ofAnyForm? (before ++ (body ++ after)) = some d) ∧
    (∀ s d e (f g : DateForm), f.read? s = some d → g.read? s = some e → d = e) ∧
    (∀ s (fs : List DateForm), (∀ f, f ∈ fs) → fs.findSome? (read? · (trim s)) = ofAnyForm? s) ∧
    ∀ d e : Date, d < e ↔ d.civil.Precedes e.civil := by
  refine ⟨?_, fun s d e f g ↦ agree, ?_, fun d e ↦ lt_iff_precedes⟩
  · intro c hexists hfirst hlast
    obtain ⟨d, hd⟩ := exists_civil_eq hexists hfirst hlast
    refine ⟨d, hd, fun before body after hbefore hbody hafter ↦ ?_⟩
    have hcivil : ofCivil? c = some d := ofCivil?_eq_some_iff.2 ⟨hexists, hd⟩
    rw [ofAnyForm?_eq_some_iff, trim_append hbefore hbody.isBlank hafter]
    exact hbody.exists_read? hexists hfirst hlast hcivil
  · intro s fs hall
    refine Option.ext fun d ↦ ?_
    rw [findSome?_eq_some_iff, ofAnyForm?_eq_some_iff]
    exact exists_congr fun f ↦ and_iff_right (hall f)

theorem ofAnyForm?_spellings_leap : ∃ d e : Date,
    ofAnyForm? " FEBruary-29-2024\n".toList = some d ∧
      ofAnyForm? "feb-29-2024\t".toList = some d ∧
      ofAnyForm? "2024-02-29".toList = some d ∧ ofAnyForm? "Mar-01-2024".toList = some e ∧
      d < e := by
  obtain ⟨hspell, -, -, hlt⟩ := ofAnyForm?_spellings
  obtain ⟨d, hd, hread⟩ := hspell ⟨2024, 2, 29⟩ (by decide) (by decide) (by decide)
  obtain ⟨e, he, hread'⟩ := hspell ⟨2024, 3, 1⟩ (by decide) (by decide) (by decide)
  have hFEBruary : lower "FEBruary".toList = lower (englishMonth 2) := by decide
  have hfeb : lower "feb".toList = lower ((englishMonth 2).take 3) := by decide
  have hMar : lower "Mar".toList = lower ((englishMonth 3).take 3) := by decide
  have hspace : ∀ x ∈ [' '], isBlank x := List.all_eq_true.1 (by decide)
  have hnewline : ∀ x ∈ ['\n'], isBlank x := List.all_eq_true.1 (by decide)
  have htab : ∀ x ∈ ['\t'], isBlank x := List.all_eq_true.1 (by decide)
  have hfull := hread [' '] _ ['\n'] hspace (.fullName hFEBruary) hnewline
  have hshort := hread [] _ ['\t'] nofun (.shortName hfeb) htab
  have hnumeric := hread [] _ [] nofun .numeric nofun
  have hnext := hread' [] _ [] nofun (.shortName hMar) nofun
  refine ⟨d, e, hfull, hshort, hnumeric, hnext, (hlt d e).2 ?_⟩
  rw [hd, he]
  decide

end Date

end TieredRates
