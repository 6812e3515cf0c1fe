import ColumnScan.Number.Power

/-!
# Signed integers of a fixed width

`InWidth b n` says that the integer `n` has a two's-complement form of `b` bits. A decimal holds its
digits in 128 bits, a count of nanoseconds in 64. `inWord? b n` checks it, and `wrap b n` is the
integer left when only the low `b` bits are kept. Main statement: `wrap_of_inWidth`, what fits is left alone.
-/

namespace ColumnScan

/-- The integer fits a signed word of `bits` bits. -/
def InWidth (bits : Nat) (n : Int) : Prop :=
  -(twoPow (bits - 1) : Int) ≤ n ∧ n < twoPow (bits - 1)

instance (bits : Nat) (n : Int) : Decidable (InWidth bits n) :=
  inferInstanceAs (Decidable (_ ∧ _))

/-- The integer, if a signed word of `bits` bits holds it. -/
def inWord? (bits : Nat) (n : Int) : Option Int := if InWidth bits n then some n else none

theorem inWord?_of_inWidth {bits : Nat} {n : Int} (h : InWidth bits n) : inWord? bits n = some n :=
  if_pos h

theorem inWord?_of_not_inWidth {bits : Nat} {n : Int} (h : ¬InWidth bits n) : inWord? bits n = none :=
  if_neg h

theorem inWord?_eq_some_iff {bits : Nat} {m n : Int} :
    inWord? bits m = some n ↔ InWidth bits n ∧ m = n := by
  by_cases h : InWidth bits m
  · rw [inWord?_of_inWidth h, Option.some.injEq]
    exact ⟨fun heq => ⟨heq ▸ h, heq⟩, fun heq => heq.2⟩
  · rw [inWord?_of_not_inWidth h]
    exact iff_of_false nofun fun heq => h (heq.2 ▸ heq.1)

/-- The signed reading of the low `bits` bits of an integer. -/
def wrap (bits : Nat) (n : Int) : Int := Int.bmod n (twoPow bits)

/-- A number no larger in size and of the same sign fits wherever the first one does. -/
theorem InWidth.of_natAbs_le {bits : Nat} {m n : Int} (hn : InWidth bits n)
    (hle : m.natAbs ≤ n.natAbs) (hsign : 0 ≤ n → 0 ≤ m) (hneg : n < 0 → m ≤ 0) :
    InWidth bits m := by
  unfold InWidth at *
  omega

/-- A quotient is no larger than what is divided, and of the same sign. -/
theorem InWidth.tdiv {bits : Nat} {n d : Int} (h : InWidth bits n) (hd : 0 ≤ d) :
    InWidth bits (n.tdiv d) := by
  refine h.of_natAbs_le ?_ ?_ ?_
  · rw [Int.natAbs_tdiv]
    exact Nat.div_le_self ..
  · intro hn
    exact Int.tdiv_nonneg hn hd
  · intro hn
    have hneg : 0 ≤ (-n).tdiv d := Int.tdiv_nonneg (by omega) hd
    rw [Int.neg_tdiv] at hneg
    omega

/-- So is a remainder. -/
theorem InWidth.tmod {bits : Nat} {n : Int} (h : InWidth bits n) (d : Int) :
    InWidth bits (n.tmod d) := by
  refine h.of_natAbs_le ?_ ?_ ?_
  · rw [Int.natAbs_tmod]
    exact Nat.mod_le ..
  · intro hn
    exact Int.tmod_nonneg _ hn
  · intro hn
    have hneg : 0 ≤ (-n).tmod d := Int.tmod_nonneg _ (by omega)
    rw [Int.neg_tmod] at hneg
    omega

theorem wrap_of_inWidth {bits : Nat} {n : Int} (hb : 0 < bits) (h : InWidth bits n) :
    wrap bits n = n := by
  unfold wrap InWidth at *
  obtain ⟨k, rfl⟩ : ∃ k, bits = k + 1 := ⟨bits - 1, by omega⟩
  have hp := twoPow_succ k
  rw [Nat.add_sub_cancel] at h
  exact Int.bmod_eq_of_le (by omega) (by omega)

end ColumnScan
