namespace TieredRates.Text

def digitValue (c : Char) : Nat := c.toNat - 48

def hexValue? (c : Char) : Option Nat :=
  if c.isDigit then some (c.toNat - 48)
  else if 'a' ≤ c ∧ c ≤ 'f' then some (c.toNat - 87)
  else if 'A' ≤ c ∧ c ≤ 'F' then some (c.toNat - 55)
  else none

/-- The number that a run of digits writes, after the digits already read as `start`. -/
def valueFrom (start : Nat) (ds : List Char) : Nat :=
  ds.foldl (fun n c ↦ 10 * n + digitValue c) start

def value (ds : List Char) : Nat := valueFrom 0 ds

def digits (n : Nat) : List Char := Nat.toDigits 10 n

def padLeft (width : Nat) (ds : List Char) : List Char :=
  List.replicate (width - ds.length) '0' ++ ds

def padded (width n : Nat) : List Char := padLeft width (digits n)

def takeDigits : Nat → List Char → List Char × List Char
  | most + 1, c :: s =>
    if c.isDigit then
      let (ds, rest) := takeDigits most s
      (c :: ds, rest)
    else ([], c :: s)
  | _, s => ([], s)

def spanDigits (s : List Char) : List Char × List Char :=
  (s.takeWhile Char.isDigit, s.dropWhile Char.isDigit)

@[simp] theorem valueFrom_nil (n : Nat) : valueFrom n [] = n := rfl

@[simp] theorem valueFrom_cons (n : Nat) (c : Char) (ds : List Char) :
    valueFrom n (c :: ds) = valueFrom (10 * n + digitValue c) ds := List.foldl_cons ..

theorem valueFrom_append (n : Nat) (ds es : List Char) :
    valueFrom n (ds ++ es) = valueFrom (valueFrom n ds) es := by
  simp [valueFrom, List.foldl_append]

end TieredRates.Text
