import TieredRates.Calendar.DateText
import TieredRates.Proofs.Text.Letters

namespace TieredRates.Calendar

open Text

section Months

variable {s a b r rest : List Char} {name : String} {names : List (String × String)} {long : Bool}
variable {k i m : Nat} {short tail : String}

theorem length_lower (s : List Char) : (lower s).length = s.length := List.length_map ..

theorem afterName?_append (h : lower a = name.toList) : afterName? name (a ++ r) = some r := by
  have hlen : a.length = name.length := by rw [← length_lower, h, String.length_toList]
  rw [afterName?, List.take_left' hlen, List.drop_left' hlen, if_pos h]

theorem afterName?_append_eq_none (hlen : a.length = name.length) (h : lower a ≠ name.toList) :
    afterName? name (a ++ r) = none := by
  rw [afterName?, List.take_left' hlen, if_neg h]

theorem afterName?_dash (htail : tail.toList.head? ≠ some '-') :
    (afterName? tail ('-' :: rest)).getD ('-' :: rest) = '-' :: rest := by
  rw [afterName?]
  split
  · next h =>
    cases hlen : tail.length with
    | zero => rfl
    | succ n =>
      rw [hlen] at h
      exact absurd (congrArg List.head? h.symm) htail
  · rfl

theorem monthFrom?_append (hnodup : (names.map (·.1.toList)).Nodup)
    (hlen : ∀ p ∈ names, p.1.length = a.length) (h : names[i]? = some (short, tail))
    (ha : lower a = short.toList) : monthFrom? long k (a ++ r) names =
      some (k + i, if long then (afterName? tail r).getD r else r) := by
  induction names generalizing i k with
  | nil => simp at h
  | cons p names ih =>
    obtain ⟨first, firstTail⟩ := p
    rw [List.map_cons, List.nodup_cons] at hnodup
    rw [List.forall_mem_cons] at hlen
    cases i with
    | zero =>
      obtain ⟨rfl, rfl⟩ := Prod.mk.inj (Option.some.inj h)
      rw [monthFrom?, afterName?_append ha]
      rfl
    | succ i =>
      have hmem : short.toList ∈ names.map (·.1.toList) :=
        List.mem_map.2 ⟨_, List.mem_of_getElem? h, rfl⟩
      have hfirst : lower a ≠ first.toList := fun heq ↦ hnodup.1 (heq ▸ ha ▸ hmem)
      rw [monthFrom?, afterName?_append_eq_none hlen.1.symm hfirst]
      rw [ih hnodup.2 hlen.2 h]
      rw [Nat.add_right_comm, Nat.add_assoc]

/-- What is a month in the short form is one in the long form, since no name goes on with a dash. -/
theorem monthFrom?_long (htail : ∀ p ∈ names, p.2.toList.head? ≠ some '-')
    (h : monthFrom? false k s names = some (m, '-' :: rest)) :
    monthFrom? true k s names = some (m, '-' :: rest) := by
  induction names generalizing k with
  | nil => nomatch h
  | cons p names ih =>
    rw [List.forall_mem_cons] at htail
    rw [monthFrom?] at h ⊢
    split at h
    · obtain ⟨rfl, rfl⟩ := Prod.mk.inj (Option.some.inj h)
      exact congrArg (fun r ↦ some (_, r)) (afterName?_dash htail.1)
    · exact ih htail.2 h

theorem exists_name_of_monthFrom? {x : Nat × List Char} (h : monthFrom? long k s names = some x) :
    ∃ p ∈ names, lower (s.take p.1.length) = p.1.toList := by
  induction names generalizing k with
  | nil => nomatch h
  | cons p names ih =>
    rw [monthFrom?] at h
    split at h
    · next hafter =>
      rw [afterName?, Option.ite_none_right_eq_some] at hafter
      exact ⟨p, List.mem_cons_self, hafter.1⟩
    · obtain ⟨q, hq, hlower⟩ := ih h
      exact ⟨q, List.mem_cons_of_mem p hq, hlower⟩

end Months

section English

def englishMonths : List String :=
  ["January", "February", "March", "April", "May", "June", "July", "August", "September",
    "October", "November", "December"]

def englishMonth (month : Nat) : List Char := ((englishMonths[month - 1]?).getD "").toList

theorem nodup_monthNames : (monthNames.map (·.1.toList)).Nodup := by decide

theorem length_of_mem_monthNames : ∀ p ∈ monthNames, p.1.length = 3 := by decide

theorem tail_of_mem_monthNames : ∀ p ∈ monthNames, p.2.toList.head? ≠ some '-' := by decide

theorem head_of_mem_monthNames : ∀ p ∈ monthNames, p.1.toList.head?.any Char.isLower := by decide

theorem map_englishMonths : englishMonths.map (fun s ↦ lower s.toList) =
    monthNames.map fun p ↦ p.1.toList ++ p.2.toList := by
  decide

theorem isLower_of_mem_englishMonths :
    ∀ s ∈ englishMonths, ∀ c ∈ lower s.toList, c.isLower := by
  have hall : englishMonths.all fun s ↦ (lower s.toList).all Char.isLower := by decide
  intro s hs
  exact List.all_eq_true.1 (List.all_eq_true.1 hall s hs)

variable {month : Nat} {name rest : List Char} {long : Bool}

theorem exists_englishMonth (hpos : 1 ≤ month) (hlast : month ≤ 12) : ∃ short tail,
    monthNames[month - 1]? = some (short, tail) ∧ short.length = 3 ∧
      lower (englishMonth month) = short.toList ++ tail.toList := by
  have hlt : month - 1 < monthNames.length := by
    have hlength : monthNames.length = 12 := rfl
    omega
  obtain ⟨p, hp⟩ : ∃ p, monthNames[month - 1]? = some p := ⟨_, List.getElem?_eq_getElem hlt⟩
  have hmap := congrArg (·[month - 1]?) map_englishMonths
  simp only [List.getElem?_map, hp, Option.map_some, Option.map_eq_some_iff] at hmap
  obtain ⟨s, hs, hlower⟩ := hmap
  refine ⟨p.1, p.2, hp, length_of_mem_monthNames p (List.mem_of_getElem? hp), ?_⟩
  rw [englishMonth, hs]
  exact hlower

theorem month?_fullName (hpos : 1 ≤ month) (hlast : month ≤ 12)
    (hname : lower name = lower (englishMonth month)) :
    month? true (name ++ '-' :: rest) = some (month, '-' :: rest) := by
  obtain ⟨short, tail, hentry, hshort, henglish⟩ := exists_englishMonth hpos hlast
  obtain ⟨a, b, rfl, ha, hb⟩ := List.map_eq_append_iff.1 (hname.trans henglish)
  have hlen : a.length = 3 := by
    rw [← length_lower, lower, ha, String.length_toList, hshort]
  have hmonth : 1 + (month - 1) = month := by omega
  rw [month?, List.append_assoc, monthFrom?_append nodup_monthNames
    (hlen ▸ length_of_mem_monthNames) hentry ha, if_pos rfl, afterName?_append hb, hmonth]
  rfl

theorem month?_shortName (hpos : 1 ≤ month) (hlast : month ≤ 12)
    (hname : lower name = lower ((englishMonth month).take 3)) :
    month? false (name ++ rest) = some (month, rest) := by
  obtain ⟨short, tail, hentry, hshort, henglish⟩ := exists_englishMonth hpos hlast
  have ha : lower name = short.toList := by
    rw [hname, lower, List.map_take]
    have htake := congrArg (List.take 3) henglish
    rwa [List.take_left' (String.length_toList.trans hshort)] at htake
  have hlen : name.length = 3 := by
    rw [← length_lower, ha, String.length_toList, hshort]
  have hmonth : 1 + (month - 1) = month := by omega
  rw [month?, monthFrom?_append nodup_monthNames (hlen ▸ length_of_mem_monthNames) hentry ha,
    hmonth]
  rfl

theorem exists_letter_of_month? {s : List Char} {x : Nat × List Char}
    (h : month? long s = some x) : ∃ c t, s = c :: t ∧ c.isAlpha := by
  obtain ⟨p, hp, hlower⟩ := exists_name_of_monthFrom? h
  have hlen := length_of_mem_monthNames p hp
  have hhead := head_of_mem_monthNames p hp
  rw [← hlower, hlen] at hhead
  cases s with
  | nil => nomatch hhead
  | cons c t => exact ⟨c, t, rfl, isAlpha_of_toLower hhead⟩

theorem year?_of_isAlpha {c : Char} (hc : c.isAlpha) (t : List Char) : year? (c :: t) = none := by
  rw [year?, skipBlanks_of_not_isBlank (isBlank_of_isAlpha hc)]
  split
  · next heq =>
    obtain ⟨rfl, -⟩ := List.cons.inj heq
    exact absurd hc (by decide)
  · next heq =>
    obtain ⟨rfl, -⟩ := List.cons.inj heq
    exact absurd hc (by decide)
  · simp [number?, takeDigits, isDigit_of_isAlpha hc]

end English

end TieredRates.Calendar
