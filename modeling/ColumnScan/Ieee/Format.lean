import ColumnScan.Number.Power

/-!
# Binary floating point

A floating-point number is kept as its bits. `Format` describes the two interchange formats, and
everything about a number is computed from its bits in integer arithmetic: a finite number is a
significand times a power of two, and `ofRatio` rounds a quotient to the nearest number of a format,
a tie going to the even significand.
-/

namespace ColumnScan.Ieee

/-- The shape of a format: how many bits hold the fraction and how many the exponent. -/
structure Format where
  fractionBits : Nat
  exponentBits : Nat
deriving DecidableEq, Repr

/-- The format of 32 bits. -/
def singleFormat : Format := ⟨23, 8⟩

/-- The format of 64 bits. -/
def doubleFormat : Format := ⟨52, 11⟩

namespace Format

/-- Where the sign bit stands. -/
def signWeight (f : Format) : Nat := twoPow (f.fractionBits + f.exponentBits)

/-- One more than the largest fraction. -/
def fractionLimit (f : Format) : Nat := twoPow f.fractionBits

/-- The bits of positive infinity. -/
def infinityBits (f : Format) : Nat := (twoPow f.exponentBits - 1) * f.fractionLimit

/-- The exponent of the last bit of the smallest numbers. -/
def leastExponent (f : Format) : Int := 2 - twoPow (f.exponentBits - 1) - f.fractionBits

/-- Whether the sign bit is set. -/
def isNegative (f : Format) (bits : Nat) : Bool := f.signWeight ≤ bits

/-- The bits without the sign. -/
def magnitudeBits (f : Format) (bits : Nat) : Nat := bits % f.signWeight

/-- Whether the bits stand for no number. -/
def isNaN (f : Format) (bits : Nat) : Bool := f.infinityBits < f.magnitudeBits bits

/-- Whether the bits stand for one of the infinities. -/
def isInfinite (f : Format) (bits : Nat) : Bool := f.magnitudeBits bits == f.infinityBits

/-- The bits with a sign in front. -/
def withSign (f : Format) (negative : Bool) (magnitude : Nat) : Nat :=
  if negative then magnitude + f.signWeight else magnitude

/-- The significand and exponent of a finite number: its size is `significand * 2 ^ exponent`. -/
def parts (f : Format) (bits : Nat) : Nat × Int :=
  let m := f.magnitudeBits bits
  let field := m / f.fractionLimit
  if field = 0 then (m, f.leastExponent)
  else (m % f.fractionLimit + f.fractionLimit, f.leastExponent + (field - 1 : Int))

/-- The nearest integer to a quotient, a tie going to the even one. -/
def divNearestEven (num den : Nat) : Nat :=
  let quotient := num / den
  let twice := 2 * (num % den)
  if twice < den then quotient
  else if den < twice then quotient + 1
  else quotient + quotient % 2

/-- `num / den` in units of `2 ^ exponent`, as a quotient of natural numbers. -/
def scaled (num den : Nat) (exponent : Int) : Nat × Nat :=
  if 0 ≤ exponent then (num, den * twoPow exponent.toNat) else (num * twoPow (-exponent).toNat, den)

/-- The magnitude bits of the number nearest to `num / den`; infinity when that is too large. -/
def ofRatio (f : Format) (num den : Nat) : Nat :=
  if num = 0 then 0
  else
    let guess : Int := (num.log2 : Int) - den.log2 - 1 - f.fractionBits
    let start := max guess f.leastExponent
    let (n, d) := scaled num den start
    -- The guess leaves the leading bit in its place or one above it.
    let exponent := if 2 * f.fractionLimit ≤ n / d then start + 1 else start
    let (n, d) := scaled num den exponent
    let significand := divNearestEven n d
    -- A significand that was rounded up to a power of two carries into the exponent.
    let bits := (exponent - f.leastExponent).toNat * f.fractionLimit + significand
    min bits f.infinityBits

end Format

/-- A number of the 32-bit format. -/
structure Single where
  bits : UInt32
deriving DecidableEq, Inhabited

/-- A number of the 64-bit format. -/
structure Double where
  bits : UInt64
deriving DecidableEq, Inhabited

namespace Double

/-- Whether this is not a number. -/
def isNaN (x : Double) : Bool := doubleFormat.isNaN x.bits.toNat

/-- Whether this is a number other than the infinities. -/
def isFinite (x : Double) : Bool :=
  !x.isNaN && !doubleFormat.isInfinite x.bits.toNat

/-- The number with these magnitude bits and this sign. -/
def ofMagnitude (negative : Bool) (magnitude : Nat) : Double :=
  ⟨(doubleFormat.withSign negative magnitude).toUInt64⟩

/-- The number nearest to an integer. -/
def ofNat (negative : Bool) (n : Nat) : Double := ofMagnitude negative (doubleFormat.ofRatio n 1)

/-- The nearest number of the 32-bit format; an infinity when that is too large. -/
def toSingle (x : Double) : Single :=
  let bits := x.bits.toNat
  let negative := doubleFormat.isNegative bits
  let magnitude :=
    if doubleFormat.isNaN bits then
      singleFormat.infinityBits + singleFormat.fractionLimit / 2
    else if doubleFormat.isInfinite bits then singleFormat.infinityBits
    else
      let (m, e) := doubleFormat.parts bits
      if 0 ≤ e then singleFormat.ofRatio (m * twoPow e.toNat) 1
      else singleFormat.ofRatio m (twoPow (-e).toNat)
  ⟨(singleFormat.withSign negative magnitude).toUInt32⟩

end Double

end ColumnScan.Ieee
