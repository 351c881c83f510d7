import TieredRates.Decimal.Product

namespace TieredRates.Decimal

structure Division where
  quotient : Nat
  left : Nat
  scale : Int
  /-- Whether something was left over at some point. -/
  continued : Bool

/-- The most digits, at most nine, that can still be put behind `quotient`. -/
def roomFor (quotient : Nat) (scale : Int) : Nat :=
  (((List.range 10).reverse.find? fun p : Nat ↦
    quotient * tenTo p < room && decide (scale + p ≤ (maxScale : Int))).getD 0)

/-- Gives up the last place of a size that has filled the room. `more` tells whether something was
left over behind it. -/
def giveUpPlace? (size : Nat) (scale : Int) (more : Bool) : Option (Nat × Int) :=
  if scale ≤ 0 then none
  else
    let q := size / 10
    let r := size % 10
    some (if 5 < r ∨ (r = 5 ∧ (more ∨ q % 2 = 1)) then q + 1 else q, scale - 1)

/-- Rounds by what is left over of `divisor`, half to even. -/
def finish? (divisor : Nat) (d : Division) : Option (Nat × Int) :=
  if divisor < 2 * d.left ∨ (2 * d.left = divisor ∧ d.quotient % 2 = 1) then
    if d.quotient + 1 < room then some (d.quotient + 1, d.scale)
    else giveUpPlace? (d.quotient + 1) d.scale true
  else some (d.quotient, d.scale)

theorem roomFor_le (quotient : Nat) (scale : Int) (h : scale ≤ maxScale) :
    scale + roomFor quotient scale ≤ maxScale := by
  rw [roomFor]
  cases hf : (List.range 10).reverse.find? fun p : Nat ↦
      quotient * tenTo p < room && decide (scale + p ≤ (maxScale : Int)) with
  | none => simpa using h
  | some p =>
    have := List.find?_some hf
    simp only [Bool.and_eq_true, decide_eq_true_eq] at this
    simpa using this.2

/-- What a round of a division leads to: its answer (size, scale, and whether something was left
over at some point) or another round. -/
inductive Round where
  | answer (result : Option (Nat × Int × Bool))
  | again (next : Division)

def rounded (result : Option (Nat × Int)) : Round :=
  .answer (result.map fun r ↦ (r.1, r.2, true))

def padRound (d : Division) : Round :=
  if 0 ≤ d.scale then .answer (some (d.quotient, d.scale, d.continued))
  else
    let p := min 9 (-d.scale).toNat
    if d.quotient * tenTo p < room then
      .again { d with quotient := d.quotient * tenTo p, scale := d.scale + p }
    else .answer none

def digitsRound (divisor : Nat) (d : Division) (p : Nat) : Round :=
  if p < 9 ∧ d.scale + p < 0 then .answer none
  else if p = 0 then rounded (finish? divisor d)
  else
    let quotient := d.quotient * tenTo p + d.left * tenTo p / divisor
    let left := d.left * tenTo p % divisor
    if quotient < room then .again { quotient, left, scale := d.scale + p, continued := true }
    else rounded (giveUpPlace? quotient (d.scale + p) (left ≠ 0))

def round (divisor : Nat) (d : Division) : Round :=
  if d.left = 0 then padRound d
  else if d.scale < maxScale then digitsRound divisor d (roomFor d.quotient d.scale)
  else rounded (finish? divisor d)

theorem scale_lt_of_padRound {d e : Division} (h : padRound d = .again e) :
    d.scale < 0 ∧ d.scale < e.scale := by
  unfold padRound at h
  split at h
  · nomatch h
  · dsimp only at h
    split at h
    · obtain rfl := Round.again.inj h
      dsimp only
      omega
    · nomatch h

theorem scale_lt_of_digitsRound {divisor p : Nat} {d e : Division}
    (h : digitsRound divisor d p = .again e) : d.scale < e.scale := by
  unfold digitsRound at h
  split at h
  · nomatch h
  · split at h
    · nomatch h
    · dsimp only at h
      split at h
      · obtain rfl := Round.again.inj h
        dsimp only
        omega
      · nomatch h

theorem scale_lt_of_round {divisor : Nat} {d e : Division} (h : round divisor d = .again e) :
    d.scale < maxScale ∧ d.scale < e.scale := by
  unfold round at h
  split at h
  · have := scale_lt_of_padRound h
    exact ⟨by simp only [maxScale]; omega, this.2⟩
  · split at h
    · next hs => exact ⟨hs, scale_lt_of_digitsRound h⟩
    · nomatch h

def divide? (divisor : Nat) (d : Division) : Option (Nat × Int × Bool) :=
  match h : round divisor d with
  | .answer result => result
  | .again e =>
    have := scale_lt_of_round h
    divide? divisor e
termination_by ((maxScale : Int) - d.scale).toNat
decreasing_by omega

def stripBlock (n : Nat) (r : Nat × Nat) : Nat × Nat :=
  if n ≤ r.2 ∧ r.1 % tenTo n = 0 then (r.1 / tenTo n, r.2 - n) else r

/-- Takes off eight zeros at once only from a multiple of `2 ^ 32`. -/
def stripEight (r : Nat × Nat) : Nat × Nat := if r.1 % 0x100000000 = 0 then stripBlock 8 r else r

def stripZeros (r : Nat × Nat) : Nat × Nat :=
  stripBlock 1 (stripBlock 2 (stripBlock 4 (stripEight (stripEight (stripEight r)))))

/-- The quotient; none by zero or where there is no room for it. A zero has no sign. -/
def div? (a b : Decimal) : Option Decimal :=
  if b.size = 0 then none
  else if a.size = 0 then some zero
  else do
    let (size, scale, continued) ← divide? b.size {
      quotient := a.size / b.size
      left := a.size % b.size
      scale := a.scale - b.scale
      continued := false }
    let r := if continued then stripZeros (size, scale.toNat) else (size, scale.toNat)
    ofSize? (oppositeSigns a b) r.1 r.2

end TieredRates.Decimal
