import ColumnScan.Ieee.Format

/-!
# Products and quotients

The rounded product and quotient of two finite numbers without sign, computed exactly and rounded
once. `powerOfTen` is the number nearest to a power of ten.
-/

namespace ColumnScan.Ieee.Format

/-- The number nearest to `significand * 2 ^ exponent / den`. -/
def roundScaled (f : Format) (num den : Nat) (exponent : Int) : Nat :=
  if 0 ≤ exponent then f.ofRatio (num * twoPow exponent.toNat) den
  else f.ofRatio num (den * twoPow (-exponent).toNat)

/-- The product of two finite numbers without sign. -/
def mul (f : Format) (a b : Nat) : Nat :=
  let (m, d) := f.parts a
  let (n, e) := f.parts b
  f.roundScaled (m * n) 1 (d + e)

/-- The quotient of two finite numbers without sign; the second is not zero. -/
def div (f : Format) (a b : Nat) : Nat :=
  let (m, d) := f.parts a
  let (n, e) := f.parts b
  f.roundScaled m n (d - e)

/-- The number nearest to a power of ten. -/
def powerOfTen (f : Format) (n : Nat) : Nat := f.ofRatio (tenPow n) 1

end ColumnScan.Ieee.Format
