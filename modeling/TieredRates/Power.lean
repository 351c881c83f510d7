namespace TieredRates

def tenTo (n : Nat) : Nat := Nat.pow 10 n

def twoTo (n : Nat) : Nat := Nat.pow 2 n

@[simp] theorem tenTo_zero : tenTo 0 = 1 := rfl

theorem tenTo_succ (n : Nat) : tenTo (n + 1) = 10 * tenTo n := Nat.mul_comm ..

theorem tenTo_pos (n : Nat) : 0 < tenTo n := Nat.pow_pos (by decide)

theorem tenTo_add (m n : Nat) : tenTo (m + n) = tenTo m * tenTo n := by
  induction n with
  | zero => rw [Nat.add_zero, tenTo_zero, Nat.mul_one]
  | succ n ih => rw [← Nat.add_assoc, tenTo_succ, ih, tenTo_succ, Nat.mul_left_comm]

theorem tenTo_le {m n : Nat} (h : m ≤ n) : tenTo m ≤ tenTo n := by
  rw [← Nat.add_sub_of_le h, tenTo_add]
  exact Nat.le_mul_of_pos_right _ (tenTo_pos _)

end TieredRates
