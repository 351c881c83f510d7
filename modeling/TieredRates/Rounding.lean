namespace TieredRates

/-- The quotient by `n` rounded to the nearest whole number, a half to the even one. -/
def divRound (m n : Nat) : Nat :=
  let q := m / n
  let r := m % n
  if n < 2 * r ∨ (2 * r = n ∧ q % 2 = 1) then q + 1 else q

theorem div_le_divRound (m n : Nat) : m / n ≤ divRound m n := by
  simp only [divRound]
  split <;> omega

theorem divRound_le (m n : Nat) : divRound m n ≤ m / n + 1 := by
  simp only [divRound]
  split <;> omega

theorem divRound_of_dvd {m n : Nat} (hn : 0 < n) (h : m % n = 0) : divRound m n = m / n := by
  simp only [divRound, h]
  rw [if_neg (by omega)]

end TieredRates
