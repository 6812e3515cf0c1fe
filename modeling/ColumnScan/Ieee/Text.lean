import ColumnScan.Decimal.Text
import ColumnScan.Ieee.Shortest

/-!
# Floating-point numbers as text

A number is shown with its shortest digits, never with an exponent and without a point when it is
whole; of two equally near decimals the larger is taken. Not-a-numbers have no sign.
-/

namespace ColumnScan.Ieee

/-- A decimal written out in full. -/
def Digits.positional (d : Digits) : List Char :=
  if 0 ≤ d.exponent then Nat.toDigits 10 d.digits ++ List.replicate d.exponent.toNat '0'
  else Decimal.placed d.digits (-d.exponent).toNat

/-- The number with these bits as it is shown. -/
def Format.text (f : Format) (bits : Nat) : String :=
  if f.isNaN bits then "NaN"
  else
    let sign := if f.isNegative bits then ['-'] else []
    let body :=
      if f.isInfinite bits then ['i', 'n', 'f']
      else if f.magnitudeBits bits = 0 then ['0']
      else (shortest f .up bits).positional
    String.ofList (sign ++ body)

/-- A number of the 32-bit format as it is shown. -/
def Single.text (x : Single) : String := singleFormat.text x.bits.toNat

/-- A number of the 64-bit format as it is shown. -/
def Double.text (x : Double) : String := doubleFormat.text x.bits.toNat

end ColumnScan.Ieee
