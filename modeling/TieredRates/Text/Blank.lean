namespace TieredRates.Text

/-- The 25 code points with the `White_Space` property. -/
def isBlank (c : Char) : Bool :=
  let n := c.toNat
  (9 ≤ n && n ≤ 13) || n == 0x20 || n == 0x85 || n == 0xa0 || n == 0x1680 ||
    (0x2000 ≤ n && n ≤ 0x200a) || n == 0x2028 || n == 0x2029 || n == 0x202f || n == 0x205f ||
    n == 0x3000

def skipBlanks (s : List Char) : List Char := s.dropWhile isBlank

def dropBlankEnd (s : List Char) : List Char := (s.reverse.dropWhile isBlank).reverse

def trim (s : List Char) : List Char := dropBlankEnd (skipBlanks s)

def upper (s : List Char) : List Char := s.map Char.toUpper

def lower (s : List Char) : List Char := s.map Char.toLower

@[simp] theorem skipBlanks_nil : skipBlanks [] = [] := rfl

theorem skipBlanks_cons (c : Char) (s : List Char) :
    skipBlanks (c :: s) = if isBlank c then skipBlanks s else c :: s := by
  simp only [skipBlanks, List.dropWhile_cons]

theorem skipBlanks_of_not_isBlank {c : Char} (h : isBlank c = false) (s : List Char) :
    skipBlanks (c :: s) = c :: s := by
  simp [skipBlanks_cons, h]

theorem skipBlanks_eq_nil_iff {s : List Char} : skipBlanks s = [] ↔ ∀ c ∈ s, isBlank c := by
  induction s with
  | nil => simp
  | cons c s ih => by_cases h : isBlank c <;> simp [skipBlanks_cons, h, ih]

end TieredRates.Text
