import TieredRates.Decimal.Text
import TieredRates.Proofs.Text.Digits

namespace TieredRates.Decimal

open Text

theorem addPlaces?_of_lt {size scale : Nat} {ds : List Char} (h : valueFrom size ds < room)
    (hs : scale + ds.length ≤ maxScale) :
    addPlaces? size scale ds = some (valueFrom size ds, scale + ds.length) := by
  induction ds generalizing size scale with
  | nil => rfl
  | cons c ds ih =>
    rw [List.length_cons] at hs
    have hlt : 10 * size + digitValue c < room := Nat.lt_of_le_of_lt (le_valueFrom _ ds) h
    rw [addPlaces?, if_pos ⟨by omega, hlt⟩, ih h (by omega), valueFrom_cons, List.length_cons]
    congr 2
    omega

theorem isGrouped_of_digits {ds : List Char} (hne : ds ≠ []) (h : ∀ c ∈ ds, c.isDigit) :
    isGrouped ds = true := by
  cases ds with
  | nil => exact absurd rfl hne
  | cons c ds =>
    simp only [isGrouped, List.head?_cons, Option.any_some, Bool.and_eq_true, List.all_eq_true,
      Bool.or_eq_true]
    exact ⟨h c (by simp), fun d hd ↦ .inl (h d hd)⟩

theorem ne_point_of_isDigit {c : Char} (h : c.isDigit) : c ≠ '.' := by
  rintro rfl
  exact absurd h (by decide)

theorem readSize?_placePoint {scale : Nat} {ds : List Char} (h : ∀ c ∈ ds, c.isDigit)
    (hl : scale < ds.length) (hv : value ds < room) (hs : scale ≤ maxScale) :
    readSize? (placePoint scale ds) = some (value ds, scale) := by
  have hne : ds ≠ [] := fun hd ↦ by simp [hd] at hl
  have hf {es : List Char} (hes : ∀ c ∈ es, c ∈ ds) : es.filter Char.isDigit = es :=
    List.filter_eq_self.2 fun c hc ↦ h c (hes c hc)
  have hw {es rest : List Char} (hes : ∀ c ∈ es, c ∈ ds) :
      (es ++ '.' :: rest).takeWhile (· ≠ '.') = es ∧
        (es ++ '.' :: rest).dropWhile (· ≠ '.') = '.' :: rest := by
    have hp : ∀ c ∈ es, decide (c ≠ '.') = true := fun c hc ↦
      decide_eq_true (ne_point_of_isDigit (h c (hes c hc)))
    rw [List.takeWhile_append_of_pos hp, List.dropWhile_append_of_pos hp]
    simp
  by_cases h0 : scale = 0
  · have hp : ∀ c ∈ ds, decide (c ≠ '.') = true := fun c hc ↦
      decide_eq_true (ne_point_of_isDigit (h c hc))
    have htake : ds.takeWhile (· ≠ '.') = ds := by
      have happ : (ds ++ []).takeWhile (· ≠ '.') = ds ++ [].takeWhile (· ≠ '.') :=
        List.takeWhile_append_of_pos hp
      simpa using happ
    have hdrop : ds.dropWhile (· ≠ '.') = [] := by
      have happ : (ds ++ []).dropWhile (· ≠ '.') = [].dropWhile (· ≠ '.') :=
        List.dropWhile_append_of_pos hp
      simpa using happ
    rw [placePoint, if_pos h0, readSize?, h0]
    simp only [htake, hdrop, List.drop_nil, List.append_nil, List.filter_nil, hf fun c hc ↦ hc,
      isGrouped_of_digits hne h, hv, and_self, if_true, addPlaces?]
  · have htake : ∀ c ∈ ds.take (ds.length - scale), c ∈ ds := fun c ↦ List.mem_of_mem_take
    have hdrop : ∀ c ∈ ds.drop (ds.length - scale), c ∈ ds := fun c ↦ List.mem_of_mem_drop
    have happ := List.take_append_drop (ds.length - scale) ds
    have hval : valueFrom (value (ds.take (ds.length - scale))) (ds.drop (ds.length - scale)) =
        value ds := by
      rw [value, ← valueFrom_append, happ, value]
    have hlen : (ds.drop (ds.length - scale)).length = scale := by
      rw [List.length_drop]
      omega
    rw [placePoint, if_neg h0, readSize?]
    simp only [hw htake, List.drop_one, List.tail_cons, happ, hf htake, hf hdrop,
      isGrouped_of_digits hne h, true_and]
    rw [if_pos, addPlaces?_of_lt, hval, hlen, Nat.zero_add]
    · rw [hval]
      exact hv
    · omega
    · exact Nat.lt_of_le_of_lt (le_valueFrom _ _) (hval ▸ hv)

theorem splitSign_of_isDigit {c : Char} (h : c.isDigit) (s : List Char) :
    splitSign (c :: s) = (false, c :: s) := by
  rw [splitSign]
  · intro r hr
    obtain ⟨rfl, -⟩ := List.cons.inj hr
    exact absurd h (by decide)
  · intro r hr
    obtain ⟨rfl, -⟩ := List.cons.inj hr
    exact absurd h (by decide)

theorem exists_placePoint_eq_cons {scale : Nat} {ds : List Char} (h : ∀ c ∈ ds, c.isDigit)
    (hl : scale < ds.length) : ∃ c s, placePoint scale ds = c :: s ∧ c.isDigit := by
  cases ds with
  | nil => simp at hl
  | cons c ds =>
    have hc := h c (by simp)
    rw [placePoint]
    split
    · exact ⟨c, ds, rfl, hc⟩
    · obtain ⟨n, hn⟩ := Nat.exists_eq_succ_of_ne_zero (Nat.sub_ne_zero_of_lt hl)
      rw [hn]
      exact ⟨c, _, rfl, hc⟩

theorem readPlain?_chars {d : Decimal} (h : d.negative = true → d.size ≠ 0) :
    readPlain? d.chars = some d := by
  have hd : ∀ c ∈ padded (d.scale + 1) d.size, c.isDigit := fun c ↦ isDigit_of_mem_padded
  have hl : d.scale < (padded (d.scale + 1) d.size).length := le_length_padded _ _
  have hread : readSize? (placePoint d.scale (padded (d.scale + 1) d.size)) =
      some (d.size, d.scale) := by
    rw [readSize?_placePoint hd hl, value_padded]
    · rw [value_padded]
      exact d.size_lt
    · exact d.scale_le
  have hsign : splitSign d.chars =
      (d.negative, placePoint d.scale (padded (d.scale + 1) d.size)) := by
    rw [chars]
    cases d.negative with
    | true => rfl
    | false =>
      obtain ⟨c, s, hs, hc⟩ := exists_placePoint_eq_cons hd hl
      rw [hs]
      exact splitSign_of_isDigit hc s
  have hneg : (d.negative && d.size != 0) = d.negative := by
    cases hn : d.negative with
    | true => simpa using h hn
    | false => rfl
  simp only [readPlain?, hsign, hread, Option.bind_eq_bind, Option.bind_some, ofSize?, hneg,
    ofParts?_self]

theorem read?_chars {d : Decimal} (h : d.negative = true → d.size ≠ 0) :
    read? d.chars = some d := by
  rw [read?, readPlain?_chars h]
  rfl

theorem ofText?_text {d : Decimal} (h : d.negative = true → d.size ≠ 0) :
    ofText? d.text = some d := by
  rw [ofText?, text, String.toList_ofList, read?_chars h]

theorem IsPositive.ofText?_text {d : Decimal} (h : d.IsPositive) : ofText? d.text = some d :=
  Decimal.ofText?_text fun hn ↦ by simp [(isPositive_iff.1 h).1] at hn

theorem mem_or_eq_point_of_mem_placePoint {scale : Nat} {ds : List Char} {c : Char}
    (hc : c ∈ placePoint scale ds) : c ∈ ds ∨ c = '.' := by
  rw [placePoint] at hc
  split at hc
  · exact .inl hc
  · rcases List.mem_append.1 hc with hc | hc
    · exact .inl (List.mem_of_mem_take hc)
    · rcases List.mem_cons.1 hc with rfl | hc
      · exact .inr rfl
      · exact .inl (List.mem_of_mem_drop hc)

theorem IsPositive.isDigit_or_eq_point {d : Decimal} {c : Char} (hd : d.IsPositive)
    (hc : c ∈ d.chars) : c.isDigit ∨ c = '.' := by
  rw [chars, (isPositive_iff.1 hd).1] at hc
  exact (mem_or_eq_point_of_mem_placePoint hc).imp_left isDigit_of_mem_padded

section NoDigit

variable {s : List Char} (h : ∀ c ∈ s, c.isDigit = false)
include h

theorem isGrouped_of_no_digit : isGrouped s = false := by
  cases s with
  | nil => rfl
  | cons c s => simp [isGrouped, h c List.mem_cons_self]

theorem readSize?_of_no_digit : readSize? s = none := by
  have hparts : ∀ c ∈ s.takeWhile (· ≠ '.') ++ (s.dropWhile (· ≠ '.')).drop 1,
      c.isDigit = false := by
    intro c hc
    rcases List.mem_append.1 hc with hc | hc
    · exact h c ((List.takeWhile_sublist _).mem hc)
    · exact h c ((List.dropWhile_sublist _).mem (List.mem_of_mem_drop hc))
  simp only [readSize?, isGrouped_of_no_digit hparts, Bool.false_eq_true, false_and, if_false]

theorem readPlain?_of_no_digit : readPlain? s = none := by
  have hbehind : ∀ c ∈ (splitSign s).2, c.isDigit = false := by
    rw [splitSign.eq_def]
    split
    · exact fun c hc ↦ h c (List.mem_cons_of_mem _ hc)
    · exact fun c hc ↦ h c (List.mem_cons_of_mem _ hc)
    · exact h
  simp only [readPlain?, readSize?_of_no_digit hbehind, Option.bind_eq_bind, Option.bind_none]

theorem read?_of_no_digit : read? s = none := by
  have hfront : ∀ c ∈ s.takeWhile (!isExponentMark ·), c.isDigit = false :=
    fun c hc ↦ h c ((List.takeWhile_sublist _).mem hc)
  have hscientific : readScientific? s = none := by
    rw [readScientific?]
    split
    · rfl
    · rw [readPlain?_of_no_digit hfront]
      rfl
  rw [read?, readPlain?_of_no_digit h, hscientific]
  rfl

end NoDigit

end TieredRates.Decimal
