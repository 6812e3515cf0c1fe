import ColumnScan.Proofs.Decimal.Words
import ColumnScan.Value.Fingerprint
import Mathlib.Algebra.Order.Field.Rat
import Mathlib.Tactic.FieldSimp
import Mathlib.Tactic.Positivity

/-!
# Decimals as rational numbers

A decimal stands for a rational number, its digits over a power of ten. Its key is that number at the
widest scale, so the order of decimals, which is that of their keys, is the order of the numbers. The
same number without needless zeros is one decimal only, whichever it was made from. Main statement:
`cmp_and_normalize_exact`.
-/

namespace ColumnScan.Decimal

/-- The number that a decimal stands for. -/
def toRat (d : Decimal) : ℚ := d.unscaled / 10 ^ d.scale

theorem tenPow_eq_pow (n : Nat) : ((tenPow n : Int) : ℚ) = 10 ^ n := by
  have hpow : tenPow n = 10 ^ n := rfl
  rw [hpow]
  push_cast
  rfl

/-- The number, in units of any place at or beyond the last one. -/
theorem toRat_eq_unitsAt_div (d : Decimal) {s : Nat} (hd : d.scale ≤ s) :
    d.toRat = d.unitsAt s / 10 ^ s := by
  have hsplit : s = d.scale + (s - d.scale) := by omega
  have hpow : (10 : ℚ) ^ s = 10 ^ d.scale * 10 ^ (s - d.scale) := by rw [← pow_add, ← hsplit]
  rw [toRat, unitsAt, hpow, Int.cast_mul, tenPow_eq_pow]
  field_simp

theorem toRat_le_iff {a b : Decimal} : a.toRat ≤ b.toRat ↔ a.key ≤ b.key := by
  have hpow : (0 : ℚ) < 10 ^ maxScale := by positivity
  rw [toRat_eq_unitsAt_div a a.scale_le, toRat_eq_unitsAt_div b b.scale_le,
    div_le_div_iff_of_pos_right hpow, Int.cast_le]
  rfl

/-- Decimals are ordered as the numbers that they stand for. -/
theorem cmp_eq_compare_toRat (a b : Decimal) : a.cmp b = compare a.toRat b.toRat := by
  rw [cmp_eq_compare_key]
  rcases lt_trichotomy a.key b.key with h | h | h
  · rw [compare_lt_iff_lt.2 h, compare_lt_iff_lt.2 (not_le.1 fun hle => not_le.2 h (toRat_le_iff.1 hle))]
  · have heq : a.toRat = b.toRat := le_antisymm (toRat_le_iff.2 h.le) (toRat_le_iff.2 h.ge)
    rw [compare_eq_iff_eq.2 h, compare_eq_iff_eq.2 heq]
  · rw [compare_gt_iff_gt.2 h, compare_gt_iff_gt.2 (not_le.1 fun hle => not_le.2 h (toRat_le_iff.1 hle))]

/-! ## Without needless zeros -/

theorem toRat_normalize (d : Decimal) : d.normalize.toRat = d.toRat := by
  have hkey := key_normalize d
  exact le_antisymm (toRat_le_iff.2 hkey.le) (toRat_le_iff.2 hkey.ge)

theorem normalize_scale_or (d : Decimal) :
    d.normalize.scale = 0 ∨ ¬(10 : Int) ∣ d.normalize.unscaled := by
  rw [Int.dvd_iff_tmod_eq_zero]
  exact (stripZeros_spec d.unscaled d.scale).2

theorem normalize_normalize (d : Decimal) : d.normalize.normalize = d.normalize :=
  normalize_eq_iff.2 (cmp_eq_eq_iff.2 (key_normalize d))

/-- Decimals are the same exactly when they have the same digits and places without needless zeros. -/
theorem cmp_eq_eq_iff_normalize {a b : Decimal} :
    a.cmp b = .eq ↔
      a.normalize.unscaled = b.normalize.unscaled ∧ a.normalize.scale = b.normalize.scale := by
  rw [← normalize_eq_iff]
  exact ⟨fun h => h ▸ ⟨rfl, rfl⟩, fun h => eq_of_parts h.1 h.2⟩

theorem fingerprint_eq_iff {a b : Decimal} : a.fingerprint = b.fingerprint ↔ a.cmp b = .eq := by
  rw [cmp_eq_eq_iff_normalize, fingerprint, fingerprint, Scalar.marks, Scalar.marks, List.cons.injEq,
    List.singleton_inj, Mark.number.injEq, Mark.number.injEq, Int.natCast_inj]

/-- Decimals are compared as the rational numbers they stand for, no step of the comparison needing
more than its word of 128 bits. Dropping needless zeros keeps the number, leaves none and is done once;
decimals are the same exactly when digits and places then agree, and exactly when their fingerprints
do. -/
theorem cmp_and_normalize_exact (a b : Decimal) :
    (a.cmp b = compare a.toRat b.toRat ∧ cmpInWords? a b = some (a.cmp b)) ∧
      (a.normalize.toRat = a.toRat ∧
        (a.normalize.scale = 0 ∨ ¬(10 : Int) ∣ a.normalize.unscaled) ∧
        a.normalize.normalize = a.normalize) ∧
      (a.cmp b = .eq ↔
        a.normalize.unscaled = b.normalize.unscaled ∧ a.normalize.scale = b.normalize.scale) ∧
      (a.fingerprint = b.fingerprint ↔ a.cmp b = .eq) :=
  ⟨⟨cmp_eq_compare_toRat a b, cmpInWords?_eq a b⟩,
    ⟨toRat_normalize a, normalize_scale_or a, normalize_normalize a⟩,
    cmp_eq_eq_iff_normalize, fingerprint_eq_iff⟩

end ColumnScan.Decimal
