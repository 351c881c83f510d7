import TieredRates.Proofs.Decimal.Text
import TieredRates.Proofs.Feed.Selection
import TieredRates.Proofs.Json.Whole
import TieredRates.Proofs.Text.Blank

namespace TieredRates

open Json Text

namespace Decimal

/-- The text of the number, with commas put in anywhere and white space around it. -/
inductive Spells (v : Decimal) : String → Prop
  | of {before body after : List Char} (hbefore : ∀ c ∈ before, isBlank c)
      (hbody : body.filter (· ≠ ',') = v.chars) (hafter : ∀ c ∈ after, isBlank c) :
      Spells v (String.ofList (before ++ (body ++ after)))

structure IsWhole (v : Decimal) (n : Nat) : Prop where
  pos : 0 < n
  positive : v.negative = false
  size : v.size = n
  scale : v.scale = 0

end Decimal

namespace Observation

/-- What a field holds that gives no number. -/
inductive Unusable : Option Value → Prop
  | absent : Unusable none
  | null : Unusable (some .null)
  | bool (b : Bool) : Unusable (some (.bool b))
  | array (items : List Value) : Unusable (some (.array items))
  | object (members : List (String × Value)) : Unusable (some (.object members))
  | blank {s : String} (h : ∀ c ∈ s.toList, isBlank c) : Unusable (some (.text s))
  | noDigit {s : String} (h : ∀ c ∈ s.toList, c.isDigit = false) : Unusable (some (.text s))

section Text

variable {v : Decimal} {s : String} {field : Option Value} {o : Observation} {d : Date}

theorem isBlank_of_filter_eq_chars {body : List Char} (hv : v.IsPositive)
    (hbody : body.filter (· ≠ ',') = v.chars) : ∀ c ∈ body, isBlank c = false := by
  intro c hc
  by_cases hcomma : c = ','
  · subst hcomma
    decide
  · have hchars : c ∈ v.chars := hbody ▸ List.mem_filter.2 ⟨hc, decide_eq_true hcomma⟩
    rcases hv.isDigit_or_eq_point hchars with hdigit | rfl
    · exact isBlank_of_isDigit hdigit
    · decide

theorem number?_of_spells (hv : v.IsPositive) (h : v.Spells s) : number? (.text s) = some v := by
  obtain ⟨hbefore, hbody, hafter⟩ := h
  have htrim := trim_append hbefore (isBlank_of_filter_eq_chars hv hbody) hafter
  have hminus : v.negative = true → v.size ≠ 0 := fun _ ↦ Nat.ne_of_gt hv.size_pos
  rw [number?, String.toList_ofList, htrim, hbody, Decimal.read?_chars hminus]

theorem number?_of_no_digit (h : ∀ c ∈ s.toList, c.isDigit = false) :
    number? (.text s) = none := by
  rw [number?]
  refine Decimal.read?_of_no_digit fun c hc ↦ h c ?_
  exact mem_of_mem_trim (List.mem_filter.1 hc).1

theorem Unusable.bind_number? (h : Unusable field) : field.bind number? = none := by
  cases h with
  | blank h =>
    refine number?_of_no_digit fun c hc ↦ Bool.eq_false_iff.2 fun hdigit ↦ ?_
    exact absurd (h c hc) (by simp [isBlank_of_isDigit hdigit])
  | noDigit h => exact number?_of_no_digit h
  | _ => rfl

theorem rate?_of_firstPositive (h : o.FirstPositive v) : o.rate? d = .ok v := by
  rw [rate?, firstPositive_iff.1 h]

end Text

section Whole

variable {v : Decimal} {n : Nat}

theorem number?_whole (h : v.IsWhole n) : number? (.number (.whole n)) = some v := by
  obtain ⟨-, hpositive, rfl, hscale⟩ := h
  have hsign : ((v.size : Int) < 0) = False := by simp
  have hself := v.ofParts?_self
  rw [hpositive, hscale] at hself
  simp only [number?, Decimal.ofInt?, Decimal.ofSize?, hsign, Int.natAbs_natCast]
  exact hself

theorem chars_of_isWhole (h : v.IsWhole n) : v.chars = digits n := by
  have hlen : 1 - (digits n).length = 0 :=
    Nat.sub_eq_zero_of_le (List.length_pos_iff.2 (digits_ne_nil n))
  rw [Decimal.chars, h.positive, h.size, h.scale, padded, padLeft, hlen]
  rfl

theorem filter_digits (n : Nat) : (digits n).filter (· ≠ ',') = digits n := by
  refine List.filter_eq_self.2 fun c hc ↦ decide_eq_true ?_
  rintro rfl
  exact absurd (isDigit_of_mem_digits hc) (by decide)

theorem number?_digits (h : v.IsWhole n) :
    number? (.text (String.ofList (digits n))) = some v := by
  have hpositive : v.IsPositive := Decimal.isPositive_iff.2 ⟨h.positive, h.size ▸ h.pos⟩
  have hbody : (digits n).filter (· ≠ ',') = v.chars := by
    rw [filter_digits, chars_of_isWhole h]
  have hspells : v.Spells (String.ofList ([] ++ (digits n ++ []))) := .of nofun hbody nofun
  rw [List.nil_append, List.append_nil] at hspells
  exact number?_of_spells hpositive hspells

theorem value?_whole (care : Care) (h : 0 < n) (hn : n < 0x10000000000000000) :
    value? care (tokens (digits n)) = some (.number (.whole n), []) := by
  rw [tokens_digits h hn]
  rfl

theorem value?_quoted (care : Care) (cs : List Char) :
    value? care (tokens (quotedChars cs)) = some (.text (String.ofList cs), []) := by
  rw [tokens_quoted]
  cases care <;> rfl

end Whole

/-- A positive number that is written with commas and white space is what its observation comes to,
be it in the preferred field or behind one that gives no number. A positive number that fits 64 bits
gives the same, exactly, as a number of a JSON text and as the text of its digits. -/
theorem rate?_spelling :
    (∀ (v : Decimal) (s : String), v.IsPositive → v.Spells s → ∀ (o : Observation) (d : Date),
      (o.rate = some (.text s) → o.rate? d = .ok v) ∧
      (Unusable o.rate → o.fallbackRate = some (.text s) → o.rate? d = .ok v)) ∧
    ∀ n : Nat, 0 < n → n ≤ 0xffffffffffffffff → ∃ (v : Decimal) (x y : Value),
      (∀ care, value? care (tokens (digits n)) = some (x, [])) ∧
      (∀ care, value? care (tokens (quotedChars (digits n))) = some (y, [])) ∧
      number? x = some v ∧ number? y = some v ∧ v.IsWhole n := by
  constructor
  · intro v s hv hs o d
    have hnumber := number?_of_spells hv hs
    constructor
    · intro hrate
      refine rate?_of_firstPositive (.rate ?_ hv)
      rw [hrate]
      exact hnumber
    · intro hrate hfallback
      have hnone := hrate.bind_number?
      refine rate?_of_firstPositive (.fallback (fun v' hv' ↦ ?_) ?_ hv)
      · nomatch hnone.symm.trans hv'
      · rw [hfallback]
        exact hnumber
  · intro n hpos hn
    have hroom : n < 0x1000000000000000000000000 := by omega
    obtain ⟨v, hwhole⟩ : ∃ v : Decimal, v.IsWhole n :=
      ⟨{ negative := false, size := n, scale := 0, size_lt := hroom }, hpos, rfl, rfl, rfl⟩
    exact ⟨v, _, _, fun care ↦ value?_whole care hpos (by omega),
      fun care ↦ value?_quoted care (digits n), number?_whole hwhole, number?_digits hwhole, hwhole⟩

section Won

def wonRate : Decimal := { negative := false, size := 133810, scale := 2 }

def remarkedObservation : Observation :=
  { date := none, rate := some (.text "n/a"), fallbackRate := some (.text "\t1,3,38.1,0 ") }

theorem rate?_spelling_won : wonRate.IsPositive ∧ wonRate.Spells "\t1,3,38.1,0 " ∧
    Unusable remarkedObservation.rate ∧ remarkedObservation.rate? february = .ok wonRate ∧
    ∃ v x, value? (.keep depth) (tokens "18446744073709551615".toList) = some (x, []) ∧
      number? x = some v ∧ v.IsWhole 18446744073709551615 := by
  have hpositive : wonRate.IsPositive := by decide
  have hspells : wonRate.Spells (String.ofList (['\t'] ++ ("1,3,38.1,0".toList ++ [' ']))) :=
    .of (List.all_eq_true.1 (by decide)) (by decide) (List.all_eq_true.1 (by decide))
  have hnone : "n/a".toList.all fun c ↦ !c.isDigit := by decide
  have hremark : Unusable remarkedObservation.rate :=
    .noDigit fun c hc ↦ by simpa using List.all_eq_true.1 hnone c hc
  obtain ⟨htext, hwhole⟩ := rate?_spelling
  have hrate := htext wonRate _ hpositive hspells remarkedObservation february
  obtain ⟨v, x, -, hx, -, hv, -, hsize⟩ :=
    hwhole 18446744073709551615 (by decide) (by decide)
  exact ⟨hpositive, hspells, hremark, hrate.2 hremark rfl, v, x, hx _, hv, hsize⟩

end Won

end Observation

end TieredRates
