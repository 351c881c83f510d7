import TieredRates.Proofs.Text.Letters
import TieredRates.Record

namespace TieredRates

namespace CurrencyCode

theorem isUpper_of_mem_chars {c : CurrencyCode} {x : Char} (h : x ∈ c.chars) : x.isUpper := by
  simp only [chars, List.mem_cons, List.not_mem_nil, or_false] at h
  rw [Text.isUpper_iff_between]
  rcases h with rfl | rfl | rfl
  · exact c.first.2
  · exact c.second.2
  · exact c.third.2

theorem trim_chars (c : CurrencyCode) : Text.trim c.chars = c.chars := by
  have hvisible : ∀ x ∈ c.chars, Text.isBlank x = false := fun x hx ↦
    Text.isBlank_of_isAlpha (Text.isAlpha_iff.2 (.inl (isUpper_of_mem_chars hx)))
  have h : Text.trim ([] ++ (c.chars ++ [])) = c.chars := Text.trim_append nofun hvisible nofun
  rwa [List.nil_append, List.append_nil] at h

theorem upper_chars (c : CurrencyCode) : Text.upper c.chars = c.chars := by
  have h : c.chars.map Char.toUpper = c.chars.map id :=
    List.map_congr_left fun x hx ↦ Text.toUpper_of_isUpper (isUpper_of_mem_chars hx)
  rw [Text.upper, h, List.map_id]

theorem parse_text (c : CurrencyCode) : CurrencyCode.parse c.text = .ok c := by
  have h : ofText? c.chars = some c := by
    rw [ofText?, trim_chars]
    exact (congrArg ofChars? (upper_chars c)).trans (ofChars?_chars c)
  rw [CurrencyCode.parse, parse?, text, String.toList_ofList, h]

theorem parse_eq_ok_iff {s : String} {c : CurrencyCode} :
    CurrencyCode.parse s = .ok c ↔ CurrencyCode.parse? s = some c := by
  rw [CurrencyCode.parse]
  cases CurrencyCode.parse? s <;> simp

theorem parse_of_blank {code : String} (h : ∀ x ∈ code.toList, Text.isBlank x) :
    CurrencyCode.parse code = .ok usd := by
  refine parse_eq_ok_iff.2 ?_
  rw [parse?, ofText?, Text.trim, Text.skipBlanks_eq_nil_iff.2 h]
  rfl

end CurrencyCode

section Order

open Std

theorem Text.compare_eq_lt_iff {s t : List Char} : compare s t = .lt ↔ s < t := by
  induction s generalizing t with
  | nil => cases t <;> simp
  | cons c s ih =>
    cases t with
    | nil => simp
    | cons d t =>
      have hc : compare c d = .lt ↔ c < d := compareOfLessAndEq_eq_lt
      rw [List.compare_cons_cons, Ordering.then_eq_lt, List.cons_lt_cons_iff, hc, ih,
        LawfulEqCmp.compare_eq_iff_eq]

theorem Text.compare_ofList (s t : List Char) :
    compare (String.ofList s) (String.ofList t) = compare s t := by
  have hlt : compare (String.ofList s) (String.ofList t) = .lt ↔ compare s t = .lt := by
    have h : compare (String.ofList s) (String.ofList t) = .lt ↔
        String.ofList s < String.ofList t := compareOfLessAndEq_eq_lt
    rw [h, String.lt_iff, String.toList_ofList, String.toList_ofList, compare_eq_lt_iff]
  have heq : compare (String.ofList s) (String.ofList t) = .eq ↔ compare s t = .eq := by
    rw [LawfulEqCmp.compare_eq_iff_eq, LawfulEqCmp.compare_eq_iff_eq, String.ofList_inj]
  revert hlt heq
  cases compare (String.ofList s) (String.ofList t) <;> cases compare s t <;> simp

theorem CurrencyCode.compare_text (c d : CurrencyCode) : compare c.text d.text = compare c d :=
  Text.compare_ofList c.chars d.chars

end Order

end TieredRates
