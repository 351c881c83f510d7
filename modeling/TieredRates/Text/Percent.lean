import TieredRates.Text.Digits
import TieredRates.Text.Split

namespace TieredRates.Text

def utf8Bytes (s : List Char) : List Nat :=
  s.flatMap fun c ↦ (String.utf8EncodeChar c).map UInt8.toNat

structure Unfinished where
  code : Nat
  /-- How many bytes are still to come, and the range for the next one. -/
  left : Nat
  low : Nat := 0x80
  high : Nat := 0xbf

inductive Beginning where
  | whole (c : Char)
  | unfinished (u : Unfinished)
  | bad

/-- The ranges leave out long forms, surrogates and whatever lies beyond the last character. -/
def beginning (b : Nat) : Beginning :=
  if b < 0x80 then .whole (Char.ofNat b)
  else if 0xc2 ≤ b ∧ b ≤ 0xdf then .unfinished { code := b - 0xc0, left := 1 }
  else if b = 0xe0 then .unfinished { code := 0, left := 2, low := 0xa0 }
  else if b = 0xed then .unfinished { code := 0xd, left := 2, high := 0x9f }
  else if 0xe1 ≤ b ∧ b ≤ 0xef then .unfinished { code := b - 0xe0, left := 2 }
  else if b = 0xf0 then .unfinished { code := 0, left := 3, low := 0x90 }
  else if 0xf1 ≤ b ∧ b ≤ 0xf3 then .unfinished { code := b - 0xf0, left := 3 }
  else if b = 0xf4 then .unfinished { code := 4, left := 3, high := 0x8f }
  else .bad

def begin : Beginning → List (Option Char) × Option Unfinished
  | .whole c => ([some c], none)
  | .unfinished u => ([], some u)
  | .bad => ([none], none)

/-- The characters that bytes stand for, and none for each run of bytes that stands for no
character. A run ends where a byte cannot go on with it. -/
def readUtf8 : Option Unfinished → List Nat → List (Option Char)
  | none, [] => []
  | some _, [] => [none]
  | none, b :: bs =>
    let (out, next) := begin (beginning b)
    out ++ readUtf8 next bs
  | some u, b :: bs =>
    if u.low ≤ b ∧ b ≤ u.high then
      let code := 64 * u.code + (b - 0x80)
      if u.left = 1 then some (Char.ofNat code) :: readUtf8 none bs
      else readUtf8 (some { code, left := u.left - 1 }) bs
    else
      let (out, next) := begin (beginning b)
      none :: out ++ readUtf8 next bs

def ofUtf8? (bs : List Nat) : Option (List Char) := (readUtf8 none bs).mapM id

/-- The text that bytes stand for, with U+FFFD for what stands for nothing. -/
def ofUtf8 (bs : List Nat) : List Char := (readUtf8 none bs).map (·.getD '\ufffd')

def percentBytes : List Char → List Nat
  | '%' :: a :: b :: s =>
    match hexValue? a, hexValue? b with
    | some x, some y => (16 * x + y) :: percentBytes s
    | _, _ => 0x25 :: percentBytes (a :: b :: s)
  | c :: s => utf8Bytes [c] ++ percentBytes s
  | [] => []

def formText (s : List Char) : List Char :=
  ofUtf8 (percentBytes (s.map fun c ↦ if c = '+' then ' ' else c))

/-- The pairs of a query in their order. Nothing between two `&` is no pair. -/
def queryPairs (s : List Char) : List (String × String) :=
  ((splitAll '&' s).filter (· ≠ [])).map fun part ↦
    let (name, value) := splitFirst '=' part
    (String.ofList (formText name), String.ofList (formText (value.getD [])))

def percentDigit (n : Nat) : Char := Char.ofNat (if n < 10 then 48 + n else 55 + n)

def percentChars (isPlain : Char → Bool) (s : List Char) : List Char :=
  s.flatMap fun c ↦
    if isPlain c then [c]
    else (utf8Bytes [c]).flatMap fun b ↦ ['%', percentDigit (b / 16), percentDigit (b % 16)]

def isFormPlain (c : Char) : Bool := c.isAlphanum || c = '*' || c = '-' || c = '.' || c = '_'

def formChars (s : List Char) : List Char :=
  s.flatMap fun c ↦ if c = ' ' then ['+'] else percentChars isFormPlain [c]

end TieredRates.Text
