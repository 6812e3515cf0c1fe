import ColumnScan.Ieee.Format

/-!
# Two orders of floating-point numbers

The total order tells all bit patterns apart: from the negative not-a-numbers through minus
infinity, the numbers with minus zero below zero, and infinity, up to the positive not-a-numbers. It
orders values that are keys. The numeric comparison is the one of predicates: the two zeros are
equal and a not-a-number is comparable with nothing. Main statement: `totalKey_injective`.
-/

namespace ColumnScan.Ieee

namespace Format

/-- The place of a bit pattern in the total order. -/
def totalKey (f : Format) (bits : Nat) : Int :=
  if f.signWeight ≤ bits then (f.signWeight : Int) - 1 - bits else bits

/-- The place of a number on the number line, the same for both zeros. -/
def numericKey (f : Format) (bits : Nat) : Int :=
  if f.signWeight ≤ bits then (f.signWeight : Int) - bits else bits

/-- The comparison of two numbers, `none` when one of them is not a number. -/
def compareNumbers (f : Format) (a b : Nat) : Option Ordering :=
  if f.isNaN a || f.isNaN b then none else some (compare (f.numericKey a) (f.numericKey b))

theorem totalKey_injective {f : Format} {a b : Nat} (h : f.totalKey a = f.totalKey b) : a = b := by
  unfold totalKey at h
  split at h <;> split at h <;> omega

end Format

namespace Single

/-- The total order of bit patterns. -/
def totalCmp (a b : Single) : Ordering :=
  compare (singleFormat.totalKey a.bits.toNat) (singleFormat.totalKey b.bits.toNat)

/-- The comparison as numbers. -/
def compare? (a b : Single) : Option Ordering :=
  singleFormat.compareNumbers a.bits.toNat b.bits.toNat

end Single

namespace Double

/-- The total order of bit patterns. -/
def totalCmp (a b : Double) : Ordering :=
  compare (doubleFormat.totalKey a.bits.toNat) (doubleFormat.totalKey b.bits.toNat)

/-- The comparison as numbers. -/
def compare? (a b : Double) : Option Ordering :=
  doubleFormat.compareNumbers a.bits.toNat b.bits.toNat

end Double

end ColumnScan.Ieee
