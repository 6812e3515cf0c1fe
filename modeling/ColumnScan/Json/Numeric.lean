import ColumnScan.Ieee.Arithmetic
import ColumnScan.Ieee.Shortest
import ColumnScan.Json.Value

/-!
# Numbers of a JSON text

What a written number means to an integer field and to a floating-point field. An integer field
takes only digits with an optional minus, and not minus zero. A floating-point field takes every
number: the leading digits that fit 64 bits are rounded to a floating-point number, and one product
or quotient with a power of ten follows; a number that grows beyond all bounds is refused. Floating
point is written with its shortest digits, of two equally near ones the even one.
-/

namespace ColumnScan.Json.Number

open ColumnScan.Ieee

/-- The value of a digit. -/
def digitValue (c : Char) : Nat := c.toNat - 48

/-- The integer that is written, if it is written as one. -/
def toInt? (n : Number) : Option Int :=
  if n.fraction.isEmpty && n.exponent.isNone then
    let magnitude := Nat.ofDigitChars 10 n.whole 0
    if n.negative then if magnitude = 0 then none else some (-magnitude) else some magnitude
  else none

/-- The digits that fit 64 bits, as a significand, and the power of ten it is to be multiplied
with. -/
structure Approximation where
  significand : Nat
  exponent : Int
deriving DecidableEq, Repr

/-- The first number that does not fit 64 bits. -/
def significandLimit : Nat := twoPow 64

/-- Takes digits before the point; from the first one that does not fit on, they only count. -/
def Approximation.takeWhole (a : Approximation) : List Char → Approximation
  | [] => a
  | c :: rest =>
    let next := a.significand * 10 + digitValue c
    if next < significandLimit then takeWhole ⟨next, a.exponent⟩ rest
    else ⟨a.significand, a.exponent + (rest.length + 1 : Nat)⟩

/-- Takes digits after the point up to the first one that does not fit. -/
def Approximation.takeFraction (a : Approximation) : List Char → Approximation
  | [] => a
  | c :: rest =>
    let next := a.significand * 10 + digitValue c
    if next < significandLimit then takeFraction ⟨next, a.exponent - 1⟩ rest else a

/-- The largest power of ten that one step multiplies or divides with. -/
def greatestPower : Nat := 308

/-- The magnitude `f * 10 ^ exponent`, `none` when it is infinite. Small exponents are reached by
dividing several times; after two divisions nothing is left of any significand. -/
def scaleByTen (f : Nat) (exponent : Int) : Nat → Option Nat
  | 0 => some 0
  | fuel + 1 =>
    if exponent.natAbs ≤ greatestPower then
      let power := doubleFormat.powerOfTen exponent.natAbs
      if 0 ≤ exponent then
        let product := doubleFormat.mul f power
        if product = doubleFormat.infinityBits then none else some product
      else some (doubleFormat.div f power)
    else if f = 0 then some 0
    else if 0 ≤ exponent then none
    else
      scaleByTen (doubleFormat.div f (doubleFormat.powerOfTen greatestPower))
        (exponent + greatestPower) fuel

/-- The least exponent that does not fit 32 bits. -/
def exponentLimit : Nat := twoPow 31

/-- The magnitude of a written number. -/
def magnitude? (n : Number) : Option Nat :=
  let whole := Approximation.takeWhole ⟨0, 0⟩ n.whole
  let a := whole.takeFraction n.fraction
  let nearest := doubleFormat.ofRatio a.significand 1
  match n.exponent with
  | none =>
    if n.fraction.isEmpty && a.exponent == 0 then some nearest
    else scaleByTen nearest a.exponent 4
  | some (negative, digits) =>
    let written := Nat.ofDigitChars 10 digits 0
    if exponentLimit ≤ written then
      if a.significand ≠ 0 ∧ negative = false then none else some 0
    else
      let shift : Int := if negative then -written else written
      scaleByTen nearest (a.exponent + shift) 4

/-- The floating-point number that is written. -/
def toDouble? (n : Number) : Option Double := n.magnitude?.map (Double.ofMagnitude n.negative)

/-- Where the written form of a floating-point number changes: numbers with at most this many zeros
after the point, and with at most this many digits before it, are written without an exponent. -/
def positionalRange : Int × Int := (-4, 16)

/-- A finite floating-point number as it is written. -/
def ofDouble (x : Double) : Number :=
  let bits := x.bits.toNat
  let negative := doubleFormat.isNegative bits
  if doubleFormat.magnitudeBits bits = 0 then ⟨negative, ['0'], ['0'], none⟩
  else
    let d := shortest doubleFormat .even bits
    let digits := Nat.toDigits 10 d.digits
    let point : Int := digits.length + d.exponent
    if positionalRange.1 ≤ point ∧ point ≤ positionalRange.2 then
      if 0 ≤ d.exponent then
        ⟨negative, digits ++ List.replicate d.exponent.toNat '0', ['0'], none⟩
      else if 0 < point then
        ⟨negative, digits.take point.toNat, digits.drop point.toNat, none⟩
      else ⟨negative, ['0'], List.replicate (-point).toNat '0' ++ digits, none⟩
    else
      let exponent := point - 1
      ⟨negative, digits.take 1, digits.drop 1,
        some (decide (exponent < 0), Nat.toDigits 10 exponent.natAbs)⟩

end ColumnScan.Json.Number
