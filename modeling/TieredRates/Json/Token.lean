import TieredRates.Json.Number

namespace TieredRates.Json

open Text

inductive Token where
  | openBrace
  | closeBrace
  | openBracket
  | closeBracket
  | comma
  | colon
  | null
  | bool (value : Bool)
  /-- A quoted text; none if it is well formed but names half of a surrogate pair. -/
  | text (value : Option String)
  /-- A number; none if it is well formed but too large. -/
  | number (value : Option Number)
  | invalid
deriving DecidableEq

def isSpace (c : Char) : Bool := c = ' ' || c = '\n' || c = '\t' || c = '\r'

def punctuation? : Char → Option Token
  | '{' => some .openBrace
  | '}' => some .closeBrace
  | '[' => some .openBracket
  | ']' => some .closeBracket
  | ',' => some .comma
  | ':' => some .colon
  | _ => none

inductive Piece where
  | char (c : Char)
  | high (unit : Nat)
  | low (unit : Nat)
deriving DecidableEq

def Piece.ofUnit (n : Nat) : Piece :=
  if 0xd800 ≤ n ∧ n < 0xdc00 then .high n
  else if 0xdc00 ≤ n ∧ n < 0xe000 then .low n
  else .char (Char.ofNat n)

def shortEscape? : Char → Option Char
  | '"' => some '"'
  | '\\' => some '\\'
  | '/' => some '/'
  | 'b' => some '\x08'
  | 'f' => some '\x0c'
  | 'n' => some '\n'
  | 'r' => some '\r'
  | 't' => some '\t'
  | _ => none

def pieces? : List Char → Option (List Piece × List Char)
  | [] => none
  | '"' :: s => some ([], s)
  | '\\' :: 'u' :: a :: b :: c :: d :: s => do
    let high := (← hexValue? a) * 16 + (← hexValue? b)
    let n := (high * 16 + (← hexValue? c)) * 16 + (← hexValue? d)
    let (ps, rest) ← pieces? s
    return (.ofUnit n :: ps, rest)
  | '\\' :: e :: s => do
    let c ← shortEscape? e
    let (ps, rest) ← pieces? s
    return (.char c :: ps, rest)
  | c :: s =>
    if c.toNat < 0x20 then none
    else do
      let (ps, rest) ← pieces? s
      return (.char c :: ps, rest)

def joinPieces? : List Piece → Option (List Char)
  | [] => some []
  | .char c :: ps => (joinPieces? ps).map (c :: ·)
  | .high h :: .low l :: ps =>
    (joinPieces? ps).map (Char.ofNat (0x10000 + (h - 0xd800) * 0x400 + (l - 0xdc00)) :: ·)
  | _ => none

def text? (s : List Char) : Option (Token × List Char) :=
  (pieces? s).map fun (ps, rest) ↦ (.text ((joinPieces? ps).map String.ofList), rest)

def isNumeric (c : Char) : Bool :=
  c.isDigit || c = '-' || c = '+' || c = '.' || c = 'e' || c = 'E'

def number? (s : List Char) : Option (Token × List Char) :=
  (Numeral.ofChars? (s.takeWhile isNumeric)).map fun n ↦
    (.number (Number.ofNumeral? n), s.dropWhile isNumeric)

def word? : List Char → Option (Token × List Char)
  | 'n' :: 'u' :: 'l' :: 'l' :: s => some (.null, s)
  | 't' :: 'r' :: 'u' :: 'e' :: s => some (.bool true, s)
  | 'f' :: 'a' :: 'l' :: 's' :: 'e' :: s => some (.bool false, s)
  | _ => none

def token? : List Char → Option (Token × List Char)
  | [] => none
  | c :: s =>
    match punctuation? c with
    | some t => some (t, s)
    | none =>
      if c = '"' then text? s
      else if c.isDigit ∨ c = '-' then number? (c :: s)
      else word? (c :: s)

theorem length_of_pieces? {s rest : List Char} {ps : List Piece}
    (h : pieces? s = some (ps, rest)) : rest.length < s.length := by
  fun_induction pieces? s generalizing ps with
  | case1 => nomatch h
  | case2 s =>
    obtain ⟨-, rfl⟩ := Prod.mk.inj (Option.some.inj h)
    simp
  | case3 a b c d s ih =>
    simp only [Option.bind_eq_bind, Option.bind_eq_some_iff, Option.pure_def, Option.some.injEq,
      Prod.mk.injEq] at h
    obtain ⟨_, _, _, _, _, _, _, _, ⟨qs, r⟩, hr, -, rfl⟩ := h
    have := ih hr
    simp only [List.length_cons] at this ⊢
    omega
  | case4 e s _ ih =>
    simp only [Option.bind_eq_bind, Option.bind_eq_some_iff, Option.pure_def, Option.some.injEq,
      Prod.mk.injEq] at h
    obtain ⟨_, _, ⟨qs, r⟩, hr, -, rfl⟩ := h
    have := ih hr
    simp only [List.length_cons] at this ⊢
    omega
  | case5 => nomatch h
  | case6 c s _ _ _ _ ih =>
    simp only [Option.bind_eq_bind, Option.bind_eq_some_iff, Option.pure_def, Option.some.injEq,
      Prod.mk.injEq] at h
    obtain ⟨⟨qs, r⟩, hr, -, rfl⟩ := h
    have := ih hr
    simp only [List.length_cons] at this ⊢
    omega

theorem length_dropWhile_le (p : Char → Bool) (s : List Char) :
    (s.dropWhile p).length ≤ s.length :=
  (List.dropWhile_suffix p).length_le

theorem length_of_word? {s rest : List Char} {t : Token} (h : word? s = some (t, rest)) :
    rest.length < s.length := by
  unfold word? at h
  split at h
  · obtain ⟨-, rfl⟩ := Prod.mk.inj (Option.some.inj h)
    simp only [List.length_cons]
    omega
  · obtain ⟨-, rfl⟩ := Prod.mk.inj (Option.some.inj h)
    simp only [List.length_cons]
    omega
  · obtain ⟨-, rfl⟩ := Prod.mk.inj (Option.some.inj h)
    simp only [List.length_cons]
    omega
  · nomatch h

theorem length_of_number? {c : Char} {s rest : List Char} {t : Token} (hc : isNumeric c)
    (h : number? (c :: s) = some (t, rest)) : rest.length < (c :: s).length := by
  simp only [number?, Option.map_eq_some_iff, Prod.mk.injEq] at h
  obtain ⟨_, -, -, rfl⟩ := h
  rw [List.dropWhile_cons_of_pos hc]
  exact Nat.lt_succ_of_le (length_dropWhile_le _ _)

theorem length_of_token? {s rest : List Char} {t : Token} (h : token? s = some (t, rest)) :
    rest.length < s.length := by
  cases s with
  | nil => nomatch h
  | cons c s =>
    rw [token?] at h
    split at h
    · obtain ⟨-, rfl⟩ := Prod.mk.inj (Option.some.inj h)
      simp
    · split at h
      · simp only [text?, Option.map_eq_some_iff, Prod.mk.injEq] at h
        obtain ⟨⟨ps, r⟩, hp, -, rfl⟩ := h
        exact Nat.lt_succ_of_lt (length_of_pieces? hp)
      · split at h
        · next hc =>
          refine length_of_number? ?_ h
          rcases hc with hc | hc <;> simp [isNumeric, hc]
        · exact length_of_word? h

/-- All tokens of a text. One that breaks the rules somewhere has the tokens in front of that place
and then `Token.invalid`, so that a reader can find another fault first. -/
def tokens (s : List Char) : List Token :=
  match s with
  | [] => []
  | c :: r =>
    if isSpace c then tokens r
    else
      match h : token? (c :: r) with
      | none => [.invalid]
      | some (t, rest) =>
        have := length_of_token? h
        t :: tokens rest
termination_by s.length
decreasing_by all_goals (simp only [List.length_cons] at *; omega)

end TieredRates.Json
