import ColumnScan.Number.Signed

/-!
# Decimals

A decimal is an integer of 128 bits with a number of places, its scale, at most 38: it stands for
`unscaled / 10 ^ scale`. The scale is part of the value that is stored and shown, not of the number
that is compared, so 2.10 and 2.1 are equal. Main statements: `rescale_scale`, a rescaled decimal has
the scale that was asked for; `rescale_self`, its own scale changes nothing.
-/

namespace ColumnScan

/-- The largest number of places. -/
def Decimal.maxScale : Nat := 38

/-- The number of bits that hold the digits. -/
def Decimal.width : Nat := 128

/-- A fixed-point number: `unscaled / 10 ^ scale`. -/
structure Decimal where
  unscaled : Int
  scale : Nat
  unscaled_fits : InWidth Decimal.width unscaled
  scale_le : scale ≤ Decimal.maxScale
deriving DecidableEq

/-- Why a decimal cannot be made. -/
inductive DecimalError where
  /-- The text is not the form of a number. -/
  | invalid (text : String)
  /-- The number needs more than 128 bits. -/
  | overflow (text : String)
  /-- The number of places is above the largest. -/
  | scale (places : Int)
deriving DecidableEq, Repr

/-- The wording of the reason. -/
def DecimalError.message : DecimalError → String
  | .invalid text => "invalid decimal literal '" ++ text ++ "'"
  | .overflow text => "decimal literal '" ++ text ++ "' has too many digits"
  | .scale places => "decimal scale " ++ toString places ++ " exceeds " ++ toString Decimal.maxScale

namespace Decimal

/-- The decimal of these parts, if both are within their bounds. -/
def ofParts? (unscaled : Int) (scale : Nat) : Option Decimal :=
  if h : InWidth width unscaled ∧ scale ≤ maxScale then some ⟨unscaled, scale, h.1, h.2⟩ else none

/-- The decimal of a digit integer that is known to fit, refused for too many places. -/
def make (unscaled : Int) (fits : InWidth width unscaled) (scale : Nat) :
    Except DecimalError Decimal :=
  if h : scale ≤ maxScale then .ok ⟨unscaled, scale, fits, h⟩ else .error (.scale scale)

theorem ofParts?_eq_some_iff {u : Int} {s : Nat} {d : Decimal} :
    ofParts? u s = some d ↔ d.unscaled = u ∧ d.scale = s := by
  unfold ofParts?
  constructor
  · intro h
    split at h
    · cases h; exact ⟨rfl, rfl⟩
    · cases h
  · rintro ⟨rfl, rfl⟩
    rw [dif_pos ⟨d.unscaled_fits, d.scale_le⟩]

theorem ofParts?_eq_none_iff {u : Int} {s : Nat} :
    ofParts? u s = none ↔ ¬(InWidth width u ∧ s ≤ maxScale) := by
  unfold ofParts?
  split <;> simp_all

/-- The number of digits of a natural number, at least one. -/
def digitCount (n : Nat) : Nat :=
  if n < 10 then 1 else digitCount (n / 10) + 1

/-- The number of digits, leading zeros not counted. -/
def precision (d : Decimal) : Nat := digitCount d.unscaled.natAbs

/-- The quotient rounded to the nearest integer, a tie going away from zero. -/
def divHalfAway (n : Int) (d : Nat) : Int :=
  let quotient := n.tdiv d
  if d ≤ 2 * (n.tmod d).natAbs then quotient + n.sign else quotient

/-- The same number at another scale, rounded to nearest with ties away from zero; `none` when the
digits need more than 128 bits or the scale is above the largest. -/
def rescale (d : Decimal) (scale : Nat) : Option Decimal :=
  if d.scale ≤ scale then
    if maxScale < scale then none else ofParts? (d.unscaled * tenPow (scale - d.scale)) scale
  else ofParts? (divHalfAway d.unscaled (tenPow (d.scale - scale))) scale

theorem rescale_scale {d e : Decimal} {s : Nat} (h : d.rescale s = some e) : e.scale = s := by
  unfold rescale at h
  split at h
  · split at h
    · cases h
    · exact (ofParts?_eq_some_iff.1 h).2
  · exact (ofParts?_eq_some_iff.1 h).2

theorem rescale_self (d : Decimal) : d.rescale d.scale = some d := by
  have h := d.scale_le
  unfold rescale
  rw [if_pos (Nat.le_refl _), if_neg (by omega), Nat.sub_self, tenPow_zero, Int.natCast_one, Int.mul_one]
  exact ofParts?_eq_some_iff.2 ⟨rfl, rfl⟩

/-- Digits and places after dropping the zeros at the end of the places. -/
def stripZeros (u : Int) : Nat → Int × Nat
  | 0 => (u, 0)
  | s + 1 => if u.tmod 10 = 0 then stripZeros (u.tdiv 10) s else (u, s + 1)

theorem stripZeros_scale_le (u : Int) (s : Nat) : (stripZeros u s).2 ≤ s := by
  fun_induction stripZeros u s <;> grind

theorem stripZeros_inWidth {b : Nat} (u : Int) (s : Nat) (h : InWidth b u) :
    InWidth b (stripZeros u s).1 := by
  fun_induction stripZeros u s with
  | case1 => exact h
  | case2 u s _ ih => exact ih (h.tdiv (by decide))
  | case3 => exact h

/-- The same number with the fewest places. -/
def normalize (d : Decimal) : Decimal where
  unscaled := (stripZeros d.unscaled d.scale).1
  scale := (stripZeros d.unscaled d.scale).2
  unscaled_fits := stripZeros_inWidth _ _ d.unscaled_fits
  scale_le := Nat.le_trans (stripZeros_scale_le ..) d.scale_le

end Decimal

end ColumnScan
