import TieredRates.Json.Token
import TieredRates.Json.Writer

namespace TieredRates.Json

open Text

theorem hexValue?_escapeDigit : ∀ n < 16, hexValue? (escapeDigit n) = some n := by decide

theorem pieces?_control {c : Char} (hc : c.toNat < 0x20) (s : List Char) :
    pieces? ('\\' :: 'u' :: '0' :: '0' :: escapeDigit (c.toNat / 16) ::
      escapeDigit (c.toNat % 16) :: s) =
      (pieces? s).map fun r ↦ (.char c :: r.1, r.2) := by
  have hzero : hexValue? '0' = some 0 := rfl
  have hhigh := hexValue?_escapeDigit (c.toNat / 16) (by omega)
  have hlow := hexValue?_escapeDigit (c.toNat % 16) (by omega)
  have hunit : Piece.ofUnit (((0 * 16 + 0) * 16 + c.toNat / 16) * 16 + c.toNat % 16) = .char c := by
    have hn : ((0 * 16 + 0) * 16 + c.toNat / 16) * 16 + c.toNat % 16 = c.toNat := by omega
    rw [hn, Piece.ofUnit, if_neg (by omega), if_neg (by omega), Char.ofNat_toNat]
  simp only [pieces?, hzero, hhigh, hlow, hunit, Option.bind_eq_bind, Option.bind_some]
  cases pieces? s <;> rfl

theorem pieces?_short {e c : Char} (he : e ≠ 'u') (hc : shortEscape? e = some c) (s : List Char) :
    pieces? ('\\' :: e :: s) = (pieces? s).map fun r ↦ (.char c :: r.1, r.2) := by
  rw [pieces?, hc]
  · cases pieces? s <;> rfl
  · rintro _ _ _ _ _ rfl _
    exact he rfl

theorem pieces?_plain {c : Char} (hquote : c ≠ '"') (hslash : c ≠ '\\') (hc : ¬ c.toNat < 0x20)
    (s : List Char) : pieces? (c :: s) = (pieces? s).map fun r ↦ (.char c :: r.1, r.2) := by
  rw [pieces?, if_neg hc]
  · cases pieces? s <;> rfl
  · exact hquote
  · rintro _ _ _ _ _ rfl _
    exact hslash rfl
  · rintro _ _ rfl _
    exact hslash rfl

theorem pieces?_escapeChar (c : Char) (s : List Char) :
    pieces? (escapeChar c ++ s) = (pieces? s).map fun r ↦ (.char c :: r.1, r.2) := by
  unfold escapeChar
  split
  case h_8 hquote hslash _ _ _ _ _ =>
    split
    · next hc => exact pieces?_control hc s
    · next hc => exact pieces?_plain hquote hslash hc s
  all_goals exact pieces?_short (by decide) rfl s

theorem pieces?_escaped (cs s : List Char) :
    pieces? (cs.flatMap escapeChar ++ '"' :: s) = some (cs.map .char, s) := by
  induction cs with
  | nil => rfl
  | cons c cs ih =>
    rw [List.flatMap_cons, List.append_assoc, pieces?_escapeChar, ih]
    rfl

theorem joinPieces?_chars (cs : List Char) : joinPieces? (cs.map .char) = some cs := by
  induction cs with
  | nil => rfl
  | cons c cs ih =>
    rw [List.map_cons, joinPieces?, ih]
    rfl

theorem token?_quotedChars (cs s : List Char) :
    token? (quotedChars cs ++ s) = some (.text (some (String.ofList cs)), s) := by
  have hbody : cs.flatMap escapeChar ++ ['"'] ++ s = cs.flatMap escapeChar ++ '"' :: s := by simp
  rw [quotedChars, List.cons_append, List.cons_append, token?]
  show text? (cs.flatMap escapeChar ++ ['"'] ++ s) = _
  simp only [hbody, text?, pieces?_escaped, Option.map_some, joinPieces?_chars]

theorem tokens_of_token? {c : Char} {s rest : List Char} {t : Token} (hc : isSpace c = false)
    (h : token? (c :: s) = some (t, rest)) : tokens (c :: s) = t :: tokens rest := by
  rw [tokens]
  simp only [hc, Bool.false_eq_true, if_false]
  split
  · next hnone => exact absurd (hnone.symm.trans h) (by simp)
  · next t' rest' hsome =>
    obtain ⟨rfl, rfl⟩ := Prod.mk.inj (Option.some.inj (hsome.symm.trans h))
    rfl

theorem tokens_quotedChars (cs s : List Char) :
    tokens (quotedChars cs ++ s) = .text (some (String.ofList cs)) :: tokens s := by
  have h := token?_quotedChars cs s
  rw [quotedChars, List.cons_append, List.cons_append] at h ⊢
  exact tokens_of_token? rfl h

theorem tokens_quoted (cs : List Char) :
    tokens (quotedChars cs) = [.text (some (String.ofList cs))] := by
  have h := tokens_quotedChars cs []
  rwa [List.append_nil, tokens] at h

theorem tokens_punctuation {c : Char} {t : Token} (hc : isSpace c = false)
    (h : punctuation? c = some t) (s : List Char) : tokens (c :: s) = t :: tokens s := by
  refine tokens_of_token? hc ?_
  rw [token?, h]

end TieredRates.Json
