import TieredRates.Text.Digits

namespace TieredRates.Host.Punycode

def firstBias : Nat := 72

/-- The threshold for the digit at a place; the places count in steps of 36 from 36 on. -/
def threshold (bias place : Nat) : Nat := max 1 (min 26 (place - bias))

theorem one_le_threshold (bias place : Nat) : 1 ≤ threshold bias place := Nat.le_max_left ..

def scaleBias (n place : Nat) : Nat :=
  if 455 < n then scaleBias (n / 35) (place + 36) else place + 36 * n / (n + 38)
termination_by n
decreasing_by exact Nat.div_lt_self (by omega) (by omega)

def nextBias (n count : Nat) (first : Bool) : Nat :=
  let m := if first then n / 700 else n / 2
  scaleBias (m + m / count) 0

def digitValue? (c : Char) : Option Nat :=
  if c.isDigit then some (c.toNat - 22)
  else if 'a' ≤ c ∧ c ≤ 'z' then some (c.toNat - 97)
  else none

def digit (n : Nat) : Char := Char.ofNat (if n < 26 then 97 + n else 22 + n)

structure Reading where
  done : List Char
  code : Nat := 128
  bias : Nat := firstBias
  /-- Where the last character was put in, or where the next one will be. -/
  steps : Nat := 0
  /-- What `steps` was when the number that is being read began. -/
  before : Nat := 0
  weight : Nat := 1
  place : Nat := 36

def limit : Nat := 0x100000000

def Reading.insert? (r : Reading) : Option Reading :=
  let count := r.done.length + 1
  let code := r.code + r.steps / count
  let i := r.steps % count
  if code < 0xd800 ∨ (0xdfff < code ∧ code ≤ 0x10ffff) then
    some {
      done := r.done.take i ++ Char.ofNat code :: r.done.drop i
      code
      bias := nextBias (r.steps - r.before) count (r.before = 0)
      steps := i + 1
      before := i + 1 }
  else none

def Reading.read? (r : Reading) (c : Char) : Option Reading := do
  let d ← digitValue? c
  let t := threshold r.bias r.place
  let r := { r with steps := r.steps + d * r.weight }
  if limit ≤ r.steps then none
  else if d < t then r.insert?
  else if limit ≤ r.weight * (36 - t) then none
  else some { r with weight := r.weight * (36 - t), place := r.place + 36 }

/-- The label that a text in ASCII stands for. Behind the last `-`, which ends the characters that
stand for themselves, numbers tell how many steps further on each character is to be put in: a step
goes one place on, or to the front and one code point up. No number may be left unfinished. -/
def decode? (s : List Char) : Option (List Char) := do
  let rest := s.reverse.takeWhile (· ≠ '-')
  let plain := (s.reverse.dropWhile (· ≠ '-')).drop 1
  if plain = [] ∧ rest.length < s.length then none
  else
    let r ← rest.reverse.foldlM Reading.read? { done := plain.reverse }
    if r.place = 36 then some r.done else none

def digits (bias place n : Nat) : List Char :=
  let t := threshold bias place
  if n < t then [digit n]
  else digit (t + (n - t) % (36 - t)) :: digits bias (place + 36) ((n - t) / (36 - t))
termination_by n
decreasing_by
  have ht := one_le_threshold bias place
  exact Nat.lt_of_le_of_lt (Nat.div_le_self ..) (by omega)

structure Insertion where
  code : Nat
  count : Nat
  place : Nat

def insertionsOf (s : List Char) (code : Nat) : List Insertion :=
  (s.zipIdx.filter (·.1.toNat = code)).map fun (_, i) ↦ {
    code
    count := s.countP (·.toNat < code) + (s.take i).countP (·.toNat = code)
    place := (s.take i).countP (·.toNat ≤ code) }

/-- Writes how many steps each insertion is away from the one before it. A round of steps, after
which the code point goes up, has one place more than there are characters. -/
def written (code place bias : Nat) (first : Bool) : List Insertion → List Char
  | [] => []
  | x :: xs =>
    let n := (x.code - code) * (x.count + 1) + x.place - place
    digits bias 36 n ++ written x.code (x.place + 1) (nextBias n (x.count + 1) first) false xs

def encode (s : List Char) : List Char :=
  let plain := s.filter (·.toNat < 128)
  let codes := ((s.filter (128 ≤ ·.toNat)).map Char.toNat).mergeSort.eraseDups
  (if plain = [] then [] else plain ++ ['-']) ++
    written 128 0 firstBias true (codes.flatMap (insertionsOf s))

end TieredRates.Host.Punycode
