import ColumnScan.Decimal.Basic
import ColumnScan.Ieee.Format

/-!
# Shortest digits

The shortest decimal that reads back as a given floating-point number. All numbers between the two
midpoints to the neighbours read back, the midpoints themselves only if the significand is even. For
one digit, two digits and so on the two grid points next to the number are tried, and the first grid
with one between the midpoints gives the answer; of two such points the nearer one is taken.
-/

namespace ColumnScan.Ieee

/-- Which of two equally near decimals is taken. -/
inductive Tie where
  | up
  | even
deriving DecidableEq, Repr

/-- A number with the interval that reads back as it, all in one unit: `low ≤ value ≤ high`. -/
structure Span where
  low : Nat
  value : Nat
  high : Nat
  /-- Whether the ends themselves read back. -/
  closed : Bool
deriving DecidableEq, Repr

namespace Span

/-- Whether a point reads back. -/
def admits (s : Span) (x : Nat) : Bool :=
  if s.closed then decide (s.low ≤ x) && decide (x ≤ s.high)
  else decide (s.low < x) && decide (x < s.high)

/-- The multiple of `step` that is taken for the value, if one next to it reads back. -/
def onGrid? (s : Span) (tie : Tie) (step : Nat) : Option Nat :=
  let below := s.value / step
  let above := below + 1
  match s.admits (below * step), s.admits (above * step) with
  | true, true =>
    let left := s.value - below * step
    let right := above * step - s.value
    if left < right then some below
    else if right < left then some above
    else if tie = .even ∧ below % 2 = 0 then some below
    else some above
  | true, false => some below
  | false, true => some above
  | false, false => none

/-- The interval of the number `significand * 2 ^ exponent`, in quarters of its last bit. The
neighbour below a power of two is nearer than the one above, unless the number is among the
smallest. -/
def ofParts (f : Format) (significand : Nat) (exponent : Int) : Span where
  low := 4 * significand - (if significand = f.fractionLimit ∧ f.leastExponent < exponent then 1 else 2)
  value := 4 * significand
  high := 4 * significand + 2
  closed := significand % 2 == 0

/-- The same interval in a unit `factor` times as small. -/
def refine (s : Span) (factor : Nat) : Span where
  low := s.low * factor
  value := s.value * factor
  high := s.high * factor
  closed := s.closed

end Span

/-- A decimal without places: `digits * 10 ^ exponent`. -/
structure Digits where
  digits : Nat
  exponent : Int
deriving DecidableEq, Repr

/-- The number of digits before the point of `num / den`; negative when zeros follow the point. -/
def integralDigits (num den : Nat) : Int :=
  if den ≤ num then Decimal.digitCount (num / den)
  else 1 - (Decimal.digitCount ((den - 1) / num) : Int)

/-- Two to an integer power as a quotient. -/
def twoPowRatio (e : Int) : Nat × Nat := if 0 ≤ e then (twoPow e.toNat, 1) else (1, twoPow (-e).toNat)

/-- Ten to an integer power as a quotient. -/
def tenPowRatio (e : Int) : Nat × Nat := if 0 ≤ e then (tenPow e.toNat, 1) else (1, tenPow (-e).toNat)

/-- The decimal on the grid of the multiples of `10 ^ k`, for a span in units of `2 ^ e`. -/
def gridDecimal? (span : Span) (e : Int) (tie : Tie) (k : Int) : Option Digits :=
  let (twoNum, twoDen) := twoPowRatio e
  let (tenNum, tenDen) := tenPowRatio k
  -- Each of the two units takes the denominator of the other, so all points are integers.
  ((span.refine (twoNum * tenDen)).onGrid? tie (tenNum * twoDen)).map (⟨·, k⟩)

/-- Zeros at the end of the digits moved into the exponent. -/
def Digits.strip (d : Digits) : Nat → Digits
  | 0 => d
  | fuel + 1 =>
    if d.digits ≠ 0 ∧ d.digits % 10 = 0 then
      Digits.strip ⟨d.digits / 10, d.exponent + 1⟩ fuel
    else d

/-- More digits than any number of the two formats needs. -/
def mostDigits : Nat := 17

/-- The shortest decimal that reads back as the finite nonzero number with these bits. -/
def shortest (f : Format) (tie : Tie) (bits : Nat) : Digits :=
  let (m, e) := f.parts bits
  let span := Span.ofParts f m e
  -- The span counts in quarters of the last bit.
  let quarter := e - 2
  let (num, den) := twoPowRatio e
  let point := integralDigits (m * num) den
  -- One digit on the first grid, one more on every grid after it.
  let found :=
    (List.range mostDigits).findSome? fun i => gridDecimal? span quarter tie (point - (i + 1 : Nat))
  (found.getD ⟨m, e⟩).strip (mostDigits + 1)

end ColumnScan.Ieee
