import Mathlib.Data.List.TakeWhile
import TieredRates.Json.Value
import TieredRates.Proofs.Json.Text
import TieredRates.Proofs.Text.Digits

namespace TieredRates.Json

open Text

variable {n start : Nat} {ds : List Char}

theorem gather_eq (h : valueFrom start ds < 0x10000000000000000) :
    gather start ds = (valueFrom start ds, []) := by
  induction ds generalizing start with
  | nil => rfl
  | cons c ds ih =>
    have hlt : 10 * start + digitValue c < 0x10000000000000000 :=
      Nat.lt_of_le_of_lt (le_valueFrom _ ds) h
    simp only [gather, hlt, if_true]
    exact ih h

theorem takeWhile_digits {p : Char → Bool} (hp : ∀ c, c.isDigit → p c) (n : Nat) :
    (digits n).takeWhile p = digits n :=
  List.takeWhile_eq_self_iff.2 fun _ hc ↦ hp _ (isDigit_of_mem_digits hc)

theorem dropWhile_digits {p : Char → Bool} (hp : ∀ c, c.isDigit → p c) (n : Nat) :
    (digits n).dropWhile p = [] :=
  List.dropWhile_eq_nil_iff.2 fun _ hc ↦ hp _ (isDigit_of_mem_digits hc)

theorem Numeral.ofChars?_digits (h : 0 < n) :
    Numeral.ofChars? (digits n) = some ⟨false, digits n, none, none⟩ := by
  have hzero := head?_digits_ne_zero h
  have hspan : spanDigits (digits n) = (digits n, []) := by
    rw [spanDigits, takeWhile_digits (fun _ ↦ id), dropWhile_digits fun _ ↦ id]
  obtain ⟨c, ds, hn⟩ := List.exists_cons_of_ne_nil (digits_ne_nil n)
  have hdigit : c.isDigit := isDigit_of_mem_digits (hn ▸ List.mem_cons_self)
  rw [hn] at hspan hzero ⊢
  have hwhole : wholePart? (c :: ds) = some (c :: ds, []) := by
    simp [wholePart?, digits?, hspan, Option.some_inj.not.1 hzero]
  rw [ofChars?]
  · simp only [hwhole, Option.bind_eq_bind, Option.bind_some]
    rfl
  · rintro r hr
    obtain ⟨rfl, -⟩ := List.cons.inj hr
    exact absurd hdigit (by decide)

theorem Number.ofNumeral?_digits (hn : n < 0x10000000000000000) :
    Number.ofNumeral? ⟨false, digits n, none, none⟩ = some (.whole n) := by
  have hgather : gather 0 (digits n) = (n, []) := by
    have hvalue : valueFrom 0 (digits n) = n := value_digits n
    rw [gather_eq (hvalue.symm ▸ hn), hvalue]
  rw [Number.ofNumeral?, hgather]
  rfl

theorem isNumeric_of_isDigit (c : Char) (h : c.isDigit) : isNumeric c := by
  simp [isNumeric, h]

theorem isSpace_of_isDigit {c : Char} (h : c.isDigit) : isSpace c = false := by
  rw [Bool.eq_false_iff]
  intro hspace
  simp only [isSpace, Bool.or_eq_true, decide_eq_true_eq] at hspace
  rcases hspace with ((rfl | rfl) | rfl) | rfl <;> exact absurd h (by decide)

theorem punctuation?_of_isDigit {c : Char} (h : c.isDigit) : punctuation? c = none := by
  rw [punctuation?.eq_def]
  split
  case h_7 => rfl
  all_goals exact absurd h (by decide)

theorem tokens_digits (h : 0 < n) (hn : n < 0x10000000000000000) :
    tokens (digits n) = [.number (some (.whole n))] := by
  have hnumber : number? (digits n) = some (.number (some (.whole n)), []) := by
    rw [number?, takeWhile_digits isNumeric_of_isDigit, dropWhile_digits isNumeric_of_isDigit,
      Numeral.ofChars?_digits h, Option.map_some, Number.ofNumeral?_digits hn]
  obtain ⟨c, ds, hds⟩ := List.exists_cons_of_ne_nil (digits_ne_nil n)
  have hdigit : c.isDigit := isDigit_of_mem_digits (hds ▸ List.mem_cons_self)
  have hquote : c ≠ '"' := by
    rintro rfl
    exact absurd hdigit (by decide)
  rw [hds] at hnumber ⊢
  have htoken : token? (c :: ds) = some (.number (some (.whole n)), []) := by
    rw [token?, punctuation?_of_isDigit hdigit]
    simp only [hquote, if_false, hdigit, true_or, if_true]
    exact hnumber
  rw [tokens_of_token? (isSpace_of_isDigit hdigit) htoken, tokens]

end TieredRates.Json
