import ColumnScan.Decimal.Basic
import ColumnScan.Number.Digits
import ColumnScan.Text.Blank

/-!
# Decimals as text

A decimal is written with exactly as many digits after the point as its scale says. A text is read
as a numeral: blanks around it are cut off, then come an optional sign, digits with at most one
point among or around them, and optionally `e` or `E` with a signed exponent of 32 bits.
-/

namespace ColumnScan.Decimal

/-- The digits of a number with its point, `scale` digits standing after it. -/
def placed (magnitude scale : Nat) : List Char :=
  let digits := Nat.toDigits 10 magnitude
  let padded := List.replicate (scale + 1 - digits.length) '0' ++ digits
  let split := padded.length - scale
  padded.take split ++ (if scale = 0 then [] else '.' :: padded.drop split)

/-- A decimal as text. -/
def text (d : Decimal) : String :=
  String.ofList ((if d.unscaled < 0 then ['-'] else []) ++ placed d.unscaled.natAbs d.scale)

instance : ToString Decimal := ⟨text⟩

/-- The parts of a written number: its digits, how many of them stand after the point, and the power
of ten that follows. -/
structure Numeral where
  negative : Bool
  digits : List Char
  places : Nat
  exponent : Int
deriving DecidableEq, Repr

/-- The exponent after `e`, of 32 bits. -/
def readExponent? (cs : List Char) : Option Int :=
  (intOfDigits? cs).filter (InWidth 32 ·)

/-- Cuts a text before the first character that passes the test; the character itself is dropped. -/
def cutAt (p : Char → Bool) (cs : List Char) : List Char × Option (List Char) :=
  match cs.span (!p ·) with
  | (before, []) => (before, none)
  | (before, _ :: after) => (before, some after)

/-- The digits before and after the point, `none` unless there is at least one digit and nothing
else. -/
def readMantissa? (negative : Bool) (exponent : Int) (cs : List Char) : Option Numeral :=
  let (whole, fraction?) := cutAt (· == '.') cs
  let fraction := fraction?.getD []
  let digits := whole ++ fraction
  if digits.isEmpty || !digits.all Char.isDigit then none
  else some ⟨negative, digits, fraction.length, exponent⟩

/-- The parts of a written number without blanks around it. -/
def Numeral.read? (cs : List Char) : Option Numeral := do
  let (mantissa, tail) := cutAt (fun c => c == 'e' || c == 'E') cs
  let exponent ←
    match tail with
    | none => some 0
    | some digits => readExponent? digits
  match mantissa with
  | '-' :: rest => readMantissa? true exponent rest
  | '+' :: rest => readMantissa? false exponent rest
  | rest => readMantissa? false exponent rest

/-- The integer that all digits of the mantissa spell. -/
def Numeral.magnitude (n : Numeral) : Nat := Nat.ofDigitChars 10 n.digits 0

/-- The number of places that the written form asks for; negative when zeros have to be added. -/
def Numeral.shift (n : Numeral) : Int := n.places - n.exponent

/-- The largest magnitude that can be written. -/
def maxMagnitude : Nat := twoPow (width - 1) - 1

theorem inWidth_of_magnitude {m : Nat} (h : m ≤ maxMagnitude) (negative : Bool) :
    InWidth width (if negative then -(m : Int) else m) := by
  have := twoPow_pos (width - 1)
  unfold maxMagnitude at h
  unfold InWidth
  split <;> omega

/-- The decimal that a magnitude and a sign make. -/
def signed (text : String) (negative : Bool) (magnitude scale : Nat) :
    Except DecimalError Decimal :=
  if h : magnitude ≤ maxMagnitude then
    make (if negative then -(magnitude : Int) else magnitude) (inWidth_of_magnitude h negative) scale
  else .error (.overflow text)

/-- The decimal that a written number means; `text` is what an error shows. Too many digits are
found before too many places. -/
def Numeral.toDecimal (text : String) (n : Numeral) : Except DecimalError Decimal :=
  if maxMagnitude < n.magnitude then .error (.overflow text)
  else if n.shift < 0 then
    if (maxScale : Int) < -n.shift then .error (.overflow text)
    else signed text n.negative (n.magnitude * tenPow (-n.shift).toNat) 0
  else if (maxScale : Int) < n.shift then .error (.scale n.shift)
  else signed text n.negative n.magnitude n.shift.toNat

/-- Reads a decimal. -/
def read (text : String) : Except DecimalError Decimal :=
  match Numeral.read? (Text.trimChars text.toList) with
  | none => .error (.invalid text)
  | some n => n.toDecimal text

end ColumnScan.Decimal
