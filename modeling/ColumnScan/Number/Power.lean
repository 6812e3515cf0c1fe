/-!
# Powers of two and of ten

The sizes of words and the units of decimal places, as natural numbers. Main statements:
`twoPow_succ` and `tenPow_succ`, one more bit doubles a size and one more place is ten times as fine.
-/

namespace ColumnScan

/-- Two to the power of `n`: how many words of `n` bits there are. -/
def twoPow (n : Nat) : Nat := Nat.pow 2 n

/-- Ten to the power of `n`: how many units of the `n`th place make one. -/
def tenPow (n : Nat) : Nat := Nat.pow 10 n

@[simp] theorem tenPow_zero : tenPow 0 = 1 := rfl

theorem twoPow_succ (n : Nat) : twoPow (n + 1) = 2 * twoPow n := Nat.mul_comm ..

theorem tenPow_succ (n : Nat) : tenPow (n + 1) = 10 * tenPow n := Nat.mul_comm ..

theorem twoPow_pos (n : Nat) : 0 < twoPow n := Nat.pow_pos (by decide)

theorem tenPow_pos (n : Nat) : 0 < tenPow n := Nat.pow_pos (by decide)

end ColumnScan
