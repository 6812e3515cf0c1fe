import ColumnScan.Proofs.Decimal.Rational
import Mathlib.Tactic.Linarith
import Mathlib.Tactic.NormNum

/-!
# Rounding decimals

A decimal at another scale has the digits nearest to its number in units of the new last place, and of
two that are equally near those farther from zero. There are none only if the scale is too large or the
digits of a wider scale do not fit. Nearest digits keep the order, so rounding does. Main statement:
`rescale_nearest`.
-/

namespace ColumnScan

/-! ## The nearest integer -/

/-- The integer is the nearest to the number; of two equally near ones it is the one farther from
zero. -/
def IsNearest (x : ℚ) (n : ℤ) : Prop :=
  ∀ m : ℤ, m ≠ n → |(n : ℚ) - x| < |(m : ℚ) - x| ∨ |(n : ℚ) - x| = |(m : ℚ) - x| ∧ |m| < |n|

theorem one_le_dist_of_ne {m n : ℤ} (h : m ≠ n) (x : ℚ) : 1 ≤ |(m : ℚ) - x| + |(n : ℚ) - x| := by
  have hone : (1 : ℚ) ≤ |(m : ℚ) - n| := by
    exact_mod_cast Int.one_le_abs (sub_ne_zero.2 h)
  calc (1 : ℚ) ≤ |(m : ℚ) - n| := hone
    _ ≤ |(m : ℚ) - x| + |x - n| := abs_sub_le _ _ _
    _ = |(m : ℚ) - x| + |(n : ℚ) - x| := by rw [abs_sub_comm x]

/-- The two integers that are half a unit away lie on the two sides of the number, and the one that is
farther from zero than the number is farther than the other. -/
theorem abs_lt_abs_of_tie {x : ℚ} {m n : ℤ} (hne : m ≠ n) (hn : |(n : ℚ) - x| = 1 / 2)
    (hm : |(m : ℚ) - x| = 1 / 2) (hfar : |x| < |(n : ℚ)|) : |m| < |n| := by
  have hhalf : (0 : ℚ) ≤ 1 / 2 := by norm_num
  have hmid : (n : ℚ) + m = 2 * x := by
    have hsame : (n : ℚ) - x ≠ m - x := fun h => hne (by exact_mod_cast (sub_left_injective h).symm)
    rcases (abs_eq hhalf).1 hn with h | h <;> rcases (abs_eq hhalf).1 hm with h' | h'
    · exact absurd (h.trans h'.symm) hsame
    · linarith
    · linarith
    · exact absurd (h.trans h'.symm) hsame
  have hsum : |n + m| < 2 * |n| := by
    have h : |(n : ℚ) + m| < 2 * |(n : ℚ)| := by
      rw [hmid, abs_mul, abs_two]
      linarith
    exact_mod_cast h
  have hstep : |n - m| = 1 := by
    have h : |(n : ℚ) - m| = 1 := by
      apply le_antisymm
      · have htriangle := abs_sub_le (n : ℚ) x m
        rw [abs_sub_comm x, hn, hm] at htriangle
        linarith
      · exact_mod_cast Int.one_le_abs (sub_ne_zero.2 hne.symm)
    exact_mod_cast h
  rw [Int.abs_eq_natAbs, Int.abs_eq_natAbs] at hsum ⊢
  rw [Int.abs_eq_natAbs] at hstep
  omega

/-- An integer half a unit away at most is the nearest, if it is farther from zero than the number when
it is half a unit away. -/
theorem isNearest_of_error {x : ℚ} {n : ℤ} (herror : |(n : ℚ) - x| ≤ 1 / 2)
    (htie : |(n : ℚ) - x| = 1 / 2 → |x| < |(n : ℚ)|) : IsNearest x n := by
  intro m hm
  have hone := one_le_dist_of_ne hm x
  rcases lt_or_ge |(n : ℚ) - x| |(m : ℚ) - x| with hlt | hge
  · exact .inl hlt
  · have hn : |(n : ℚ) - x| = 1 / 2 := by linarith
    have hdist : |(m : ℚ) - x| = 1 / 2 := by linarith
    exact .inr ⟨hn.trans hdist.symm, abs_lt_abs_of_tie hm hn hdist (htie hn)⟩

theorem isNearest_intCast (n : ℤ) : IsNearest n n := by
  apply isNearest_of_error
  · rw [sub_self, abs_zero]
    norm_num
  · intro h
    rw [sub_self, abs_zero] at h
    norm_num at h

theorem IsNearest.dist_le {x : ℚ} {n : ℤ} (h : IsNearest x n) (m : ℤ) : |(n : ℚ) - x| ≤ |(m : ℚ) - x| := by
  by_cases hm : m = n
  · rw [hm]
  · rcases h m hm with hlt | ⟨heq, -⟩
    · exact hlt.le
    · exact heq.le

/-- Nearest integers are in the order of the numbers. -/
theorem IsNearest.mono {x y : ℚ} {n m : ℤ} (hn : IsNearest x n) (hm : IsNearest y m) (hxy : x ≤ y) :
    n ≤ m := by
  by_contra hlt
  have hmn : (m : ℚ) < n := by exact_mod_cast not_le.1 hlt
  -- The larger number would be below the middle of the two and the smaller one above it.
  have hx : (n : ℚ) + m ≤ 2 * x := by
    have hdist := sq_le_sq.2 (hn.dist_le m)
    nlinarith
  have hy : 2 * y ≤ (n : ℚ) + m := by
    have hdist := sq_le_sq.2 (hm.dist_le n)
    nlinarith
  have hmid : y = x := by linarith
  subst hmid
  have htie : |(n : ℚ) - y| = |(m : ℚ) - y| := le_antisymm (hn.dist_le m) (hm.dist_le n)
  -- Each of the two would be the one farther from zero.
  rcases hn m (by omega) with h | ⟨-, hfar⟩
  · exact absurd htie h.ne
  · rcases hm n (by omega) with h | ⟨-, hfar'⟩
    · exact absurd htie.symm h.ne
    · exact absurd hfar hfar'.asymm

/-! ## Rounding a quotient -/

/-- Rounding a quotient leaves half the divisor at most, and that only away from zero. -/
theorem divHalfAway_error (n : ℤ) {d : Nat} (hd : 0 < d) :
    2 * (d * Decimal.divHalfAway n d - n).natAbs ≤ d ∧
      (2 * (d * Decimal.divHalfAway n d - n).natAbs = d →
        n.natAbs < (d * Decimal.divHalfAway n d).natAbs) := by
  have hpos : (0 : ℤ) < d := Int.natCast_pos.2 hd
  have hsplit : n = d * n.tdiv d + n.tmod d := (Int.mul_tdiv_add_tmod n d).symm
  have hsize : (n.tmod d).natAbs < d := by
    rw [Int.natAbs_tmod, Int.natAbs_natCast]
    exact Nat.mod_lt _ hd
  have hrounded : d * Decimal.divHalfAway n d =
      if d ≤ 2 * (n.tmod d).natAbs then d * n.tdiv d + d * n.sign else d * n.tdiv d := by
    rw [Decimal.divHalfAway]
    split
    · rw [Int.mul_add]
    · rfl
  rw [hrounded]
  -- The remainder has the sign of the number, and so has the quotient.
  rcases lt_trichotomy n 0 with hneg | rfl | hnonneg
  · have hrem : n.tmod d ≤ 0 := by
      have h := Int.tmod_nonneg (a := -n) d (by omega)
      rw [Int.neg_tmod] at h
      omega
    have hquot : d * n.tdiv d ≤ 0 := by
      have h := Int.mul_nonneg hpos.le (Int.tdiv_nonneg (a := -n) (by omega) hpos.le)
      rw [Int.neg_tdiv, Int.mul_neg] at h
      omega
    rw [Int.sign_eq_neg_one_of_neg hneg]
    split <;> omega
  · rw [Int.zero_tmod, Int.zero_tdiv, Int.mul_zero]
    split <;> omega
  · have hrem : 0 ≤ n.tmod d := Int.tmod_nonneg d hnonneg.le
    have hquot : 0 ≤ d * n.tdiv d := Int.mul_nonneg hpos.le (Int.tdiv_nonneg hnonneg.le hpos.le)
    rw [Int.sign_eq_one_of_pos hnonneg]
    split <;> omega

/-- A rounded quotient is the integer nearest to the number that the two stand for. -/
theorem isNearest_divHalfAway (n : ℤ) {d : Nat} (hd : 0 < d) :
    IsNearest ((n : ℚ) / d) (Decimal.divHalfAway n d) := by
  have hpos : (0 : ℚ) < d := Nat.cast_pos.2 hd
  obtain ⟨herror, htie⟩ := divHalfAway_error n hd
  generalize Decimal.divHalfAway n d = q at herror htie ⊢
  have hdist : |(q : ℚ) - n / d| = ((d * q - n).natAbs : ℚ) / d := by
    rw [Nat.cast_natAbs, Int.cast_abs, ← abs_of_pos hpos, ← abs_div, abs_of_pos hpos]
    push_cast
    congr 1
    field_simp
  apply isNearest_of_error
  · rw [hdist, div_le_div_iff₀ hpos (by norm_num)]
    have h : (2 : ℚ) * (d * q - n).natAbs ≤ d := by exact_mod_cast herror
    linarith
  · intro hhalf
    rw [hdist, div_eq_div_iff hpos.ne' (by norm_num)] at hhalf
    have heq : 2 * (d * q - n).natAbs = d := by
      have h : (2 : ℚ) * (d * q - n).natAbs = d := by linarith
      exact_mod_cast h
    have hfar : |(n : ℚ)| < |(d : ℚ) * q| := by
      have h : (n.natAbs : ℚ) < (d * q : ℤ).natAbs := by exact_mod_cast htie heq
      rw [Nat.cast_natAbs, Nat.cast_natAbs] at h
      exact_mod_cast h
    rw [abs_div, abs_of_pos hpos, div_lt_iff₀ hpos]
    rw [abs_mul, abs_of_pos hpos] at hfar
    linarith

namespace Decimal

/-- The number of a decimal in units of the place at a scale. -/
theorem mul_zpow_eq (d : Decimal) (s : Nat) :
    (d.unscaled : ℚ) * 10 ^ ((s : ℤ) - d.scale) = d.toRat * 10 ^ s := by
  rw [zpow_sub₀ (by norm_num), zpow_natCast, zpow_natCast, toRat]
  ring

/-- A decimal is not rounded for too large a scale, and for digits of a wider scale that do not fit. -/
theorem rescale_eq_none_iff {d : Decimal} {s : Nat} :
    d.rescale s = none ↔
      maxScale < s ∨ d.scale < s ∧ ¬InWidth width (d.unscaled * tenPow (s - d.scale)) := by
  have hscale := d.scale_le
  unfold rescale
  split
  · next hle =>
    split
    · next hmax => exact ⟨fun _ => .inl hmax, fun _ => rfl⟩
    · next hmax =>
      rw [ofParts?_eq_none_iff]
      rcases Nat.eq_or_lt_of_le hle with rfl | hlt
      · have hfits := d.unscaled_fits
        rw [Nat.sub_self, tenPow_zero, Int.natCast_one, Int.mul_one]
        tauto
      · have hs : s ≤ maxScale := Nat.not_lt.1 hmax
        tauto
  · next hle =>
    have hfits : InWidth width (divHalfAway d.unscaled (tenPow (d.scale - s))) :=
      inWidth_divHalfAway d.unscaled_fits (ten_le_tenPow (by omega))
    rw [ofParts?_eq_none_iff]
    constructor
    · intro h
      exact absurd ⟨hfits, by omega⟩ h
    · omega

/-- The digits at another scale are the nearest to the number in units of the new last place. -/
theorem isNearest_rescale {d e : Decimal} {s : Nat} (h : d.rescale s = some e) :
    IsNearest (d.toRat * 10 ^ s) e.unscaled := by
  unfold rescale at h
  split at h
  · next hle =>
    split at h
    · cases h
    · obtain ⟨hdigits, -⟩ := ofParts?_eq_some_iff.1 h
      have hexact : d.toRat * 10 ^ s = e.unscaled := by
        rw [toRat_eq_unitsAt_div d hle, div_mul_cancel₀ _ (by positivity), hdigits]
        rfl
      rw [hexact]
      exact isNearest_intCast _
  · next hle =>
    obtain ⟨hdigits, -⟩ := ofParts?_eq_some_iff.1 h
    have hquotient : d.toRat * 10 ^ s = (d.unscaled : ℚ) / tenPow (d.scale - s) := by
      have hsplit : d.scale = d.scale - s + s := by omega
      have hpow : (10 : ℚ) ^ d.scale = tenPow (d.scale - s) * 10 ^ s := by
        have h := tenPow_eq_pow (d.scale - s)
        push_cast at h
        rw [h, ← pow_add, ← hsplit]
      rw [toRat, hpow]
      field_simp
    rw [hquotient, hdigits]
    exact isNearest_divHalfAway _ (tenPow_pos _)

/-- Rounding keeps the order. -/
theorem rescale_mono {d d' e e' : Decimal} {s : Nat} (hle : (d.cmp d').isLE)
    (h : d.rescale s = some e) (h' : d'.rescale s = some e') : (e.cmp e').isLE := by
  have hnumbers : d.toRat ≤ d'.toRat := by
    rw [cmp_eq_compare_toRat] at hle
    exact compare_le_iff_le.1 (Ordering.isLE_iff_ne_gt.1 hle)
  have hdigits : e.unscaled ≤ e'.unscaled :=
    (isNearest_rescale h).mono (isNearest_rescale h')
      (mul_le_mul_of_nonneg_right hnumbers (by positivity))
  rw [cmp_of_scale_eq ((rescale_scale h).trans (rescale_scale h').symm)]
  exact Std.isLE_compare.2 hdigits

theorem rescale_rescale {d e : Decimal} {s : Nat} (h : d.rescale s = some e) : e.rescale s = some e := by
  have hscale := rescale_scale h
  subst hscale
  exact rescale_self e

/-- There is a decimal at another scale unless the scale is too large or wider digits do not fit. Its
digits are the integer nearest to the number in units of the new last place, of two the one farther from
zero; no step of the rounding leaves its word. So rounding keeps the order, and is done once. -/
theorem rescale_nearest (d : Decimal) (s : Nat) :
    (d.rescale s = none ↔
        maxScale < s ∨ d.scale < s ∧ ¬InWidth width (d.unscaled * tenPow (s - d.scale))) ∧
      (∀ e, d.rescale s = some e →
        e.scale = s ∧ IsNearest (d.unscaled * 10 ^ ((s : ℤ) - d.scale)) e.unscaled ∧
          e.rescale s = some e) ∧
      rescaleInWords? d s = some (d.rescale s) ∧
      (∀ d' e e', (d.cmp d').isLE → d.rescale s = some e → d'.rescale s = some e' →
        (e.cmp e').isLE) := by
  refine ⟨rescale_eq_none_iff, ?_, rescaleInWords?_eq d s, fun _ _ _ => rescale_mono⟩
  intro e h
  rw [mul_zpow_eq]
  exact ⟨rescale_scale h, isNearest_rescale h, rescale_rescale h⟩

/-- Two and a half below zero is rounded to three below zero, which is not above the one that one and four
tenths are rounded to. -/
theorem rescale_negative_half :
    let d : Decimal := ⟨-25, 1, by decide, by decide⟩
    let d' : Decimal := ⟨14, 1, by decide, by decide⟩
    let e : Decimal := ⟨-3, 0, by decide, by decide⟩
    let e' : Decimal := ⟨1, 0, by decide, by decide⟩
    d.rescale 0 = some e ∧ d'.rescale 0 = some e' ∧
      IsNearest (((-25 : ℤ) : ℚ) * 10 ^ (((0 : ℕ) : ℤ) - (1 : ℕ))) (-3) ∧ (e.cmp e').isLE := by
  intro d d' e e'
  have h : d.rescale 0 = some e := by decide
  have h' : d'.rescale 0 = some e' := by decide
  obtain ⟨-, hround, -, hmono⟩ := rescale_nearest d 0
  exact ⟨h, h', (hround e h).2.1, hmono d' e e' (by decide) h h'⟩

end Decimal

end ColumnScan
