import ColumnScan.Decimal.Order
import Mathlib.Algebra.Order.Ring.Int
import Mathlib.Order.Compare
import Mathlib.Tactic.Linarith
import Mathlib.Tactic.Ring

/-!
# Decimals as numbers

Brought to the widest scale, every decimal is one integer, its key, and decimals are ordered as
their keys are. So the order is total, and decimals that it does not tell apart stand for one
number; whatever is rounded from the one is rounded from the other, and without needless zeros they
are equal. Main statements: `cmp_eq_compare_key`, `rescale_congr` and `normalize_eq_iff`.
-/

namespace ColumnScan

theorem tenPow_add (m n : Nat) : tenPow (m + n) = tenPow m * tenPow n := Nat.pow_add 10 m n

theorem compare_mul_right {p : Int} (hp : 0 < p) (x y : Int) :
    compare (x * p) (y * p) = compare x y := by
  rcases lt_trichotomy x y with h | rfl | h
  · rw [compare_lt_iff_lt.2 h, compare_lt_iff_lt]
    exact Int.mul_lt_mul_of_pos_right h hp
  · rw [compare_eq_iff_eq.2 rfl, compare_eq_iff_eq.2 rfl]
  · rw [compare_gt_iff_gt.2 h, compare_gt_iff_gt]
    exact Int.mul_lt_mul_of_pos_right h hp

namespace Decimal

/-- The number in units of the place at a scale that is no narrower than its own. -/
def unitsAt (d : Decimal) (scale : Nat) : Int := d.unscaled * tenPow (scale - d.scale)

/-- The number in units of the last place of the widest scale. -/
def key (d : Decimal) : Int := d.unitsAt maxScale

theorem key_eq_unitsAt_mul (d : Decimal) {s : Nat} (hd : d.scale ≤ s) (hs : s ≤ maxScale) :
    d.key = d.unitsAt s * tenPow (maxScale - s) := by
  have hsplit : maxScale - d.scale = (s - d.scale) + (maxScale - s) := by omega
  rw [key, unitsAt, unitsAt, hsplit, tenPow_add]
  push_cast
  ring

/-- The whole part and the remainder make up the number. -/
theorem unitsAt_eq (d : Decimal) {s : Nat} (hd : d.scale ≤ s) :
    d.unitsAt s = d.whole * tenPow s + d.remainderAt s := by
  have hsplit : s = d.scale + (s - d.scale) := by omega
  have hdiv : d.unscaled = tenPow d.scale * d.whole + d.remainder :=
    (Int.mul_tdiv_add_tmod d.unscaled (tenPow d.scale)).symm
  have hs : (tenPow s : Int) = tenPow d.scale * tenPow (s - d.scale) := by
    rw [← Int.natCast_mul, ← tenPow_add, ← hsplit]
  rw [unitsAt, remainderAt, hs]
  conv => lhs; rw [hdiv]
  ring

/-- The remainder stays below one whole and has the sign of the whole part. -/
theorem remainderAt_bounds (d : Decimal) {s : Nat} (hd : d.scale ≤ s) :
    -(tenPow s : Int) < d.remainderAt s ∧ d.remainderAt s < tenPow s ∧
      (0 < d.whole → 0 ≤ d.remainderAt s) ∧ (d.whole < 0 → d.remainderAt s ≤ 0) := by
  have hp : (0 : Int) < tenPow d.scale := Int.natCast_pos.2 (tenPow_pos _)
  have hq : (0 : Int) < tenPow (s - d.scale) := Int.natCast_pos.2 (tenPow_pos _)
  have hs : (tenPow s : Int) = tenPow d.scale * tenPow (s - d.scale) := by
    rw [← Int.natCast_mul, ← tenPow_add, show d.scale + (s - d.scale) = s by omega]
  have hlt : d.remainder < tenPow d.scale := Int.tmod_lt_of_pos _ hp
  have hgt : -(tenPow d.scale : Int) < d.remainder := by
    have h := Int.tmod_lt_of_pos (-d.unscaled) hp
    rw [Int.neg_tmod] at h
    exact Int.neg_lt_of_neg_lt h
  refine ⟨?_, ?_, ?_, ?_⟩
  · rw [hs, remainderAt, ← Int.neg_mul]
    exact Int.mul_lt_mul_of_pos_right hgt hq
  · rw [hs, remainderAt]
    exact Int.mul_lt_mul_of_pos_right hlt hq
  · intro hw
    have hu : 0 ≤ d.unscaled := by
      by_contra hneg
      have h : 0 ≤ (-d.unscaled).tdiv (tenPow d.scale) :=
        Int.tdiv_nonneg (by omega) hp.le
      rw [Int.neg_tdiv] at h
      have : d.whole ≤ 0 := by unfold whole; omega
      omega
    exact Int.mul_nonneg (Int.tmod_nonneg _ hu) hq.le
  · intro hw
    have hu : d.unscaled ≤ 0 := by
      by_contra hpos
      have h : 0 ≤ d.whole := Int.tdiv_nonneg (by omega) hp.le
      omega
    have hr : d.remainder ≤ 0 := by
      have h := Int.tmod_nonneg (a := -d.unscaled) (tenPow d.scale) (by omega)
      rw [Int.neg_tmod] at h
      unfold remainder
      omega
    exact Int.mul_nonpos_of_nonpos_of_nonneg hr hq.le

/-- A smaller whole part makes a smaller number, whatever the remainders. -/
theorem unitsAt_lt_of_whole_lt {a b : Decimal} {s : Nat} (ha : a.scale ≤ s) (hb : b.scale ≤ s)
    (h : a.whole < b.whole) : a.unitsAt s < b.unitsAt s := by
  obtain ⟨_, halt, _, haneg⟩ := a.remainderAt_bounds ha
  obtain ⟨hblt, _, hbpos, _⟩ := b.remainderAt_bounds hb
  have hp : (0 : Int) < tenPow s := Int.natCast_pos.2 (tenPow_pos s)
  have hstep : a.whole * tenPow s + tenPow s ≤ b.whole * tenPow s := by
    have hle : (a.whole + 1) * tenPow s ≤ b.whole * tenPow s :=
      Int.mul_le_mul_of_nonneg_right (by omega) hp.le
    linarith
  rw [unitsAt_eq a ha, unitsAt_eq b hb]
  -- One of the two remainders cannot point the wrong way.
  by_cases hw : 0 < b.whole
  · have := hbpos hw
    linarith
  · have := haneg (by omega)
    linarith

theorem cmp_eq_compare_unitsAt {a b : Decimal} {s : Nat} (ha : a.scale ≤ s) (hb : b.scale ≤ s) :
    (compare a.whole b.whole).then (compare (a.remainderAt s) (b.remainderAt s)) =
      compare (a.unitsAt s) (b.unitsAt s) := by
  rcases lt_trichotomy a.whole b.whole with h | h | h
  · rw [compare_lt_iff_lt.2 h, compare_lt_iff_lt.2 (unitsAt_lt_of_whole_lt ha hb h)]
    rfl
  · rw [compare_eq_iff_eq.2 h, unitsAt_eq a ha, unitsAt_eq b hb, h, Ordering.then]
    rcases lt_trichotomy (a.remainderAt s) (b.remainderAt s) with hr | hr | hr
    · rw [compare_lt_iff_lt.2 hr, compare_lt_iff_lt.2 (by omega)]
    · rw [hr, compare_eq_iff_eq.2 rfl, compare_eq_iff_eq.2 rfl]
    · rw [compare_gt_iff_gt.2 hr, compare_gt_iff_gt.2 (by omega)]
  · rw [compare_gt_iff_gt.2 h, compare_gt_iff_gt.2 (unitsAt_lt_of_whole_lt hb ha h)]
    rfl

/-- Decimals are ordered as their keys are. -/
theorem cmp_eq_compare_key (a b : Decimal) : a.cmp b = compare a.key b.key := by
  have hs : max a.scale b.scale ≤ maxScale := Nat.max_le.2 ⟨a.scale_le, b.scale_le⟩
  have ha : a.scale ≤ max a.scale b.scale := Nat.le_max_left ..
  have hb : b.scale ≤ max a.scale b.scale := Nat.le_max_right ..
  have hp : ∀ n, (0 : Int) < tenPow n := fun n => Int.natCast_pos.2 (tenPow_pos n)
  by_cases heq : a.scale = b.scale
  · rw [cmp_of_scale_eq heq, key, key, unitsAt, unitsAt, heq, compare_mul_right (hp _)]
  · rw [cmp, if_neg heq, cmp_eq_compare_unitsAt ha hb, key_eq_unitsAt_mul a ha hs,
      key_eq_unitsAt_mul b hb hs, compare_mul_right (hp _)]

instance : Std.TransCmp cmp := by
  have h : cmp = compareOn key := funext fun a => funext fun b => cmp_eq_compare_key a b
  rw [h]
  infer_instance

theorem cmp_eq_eq_iff {a b : Decimal} : a.cmp b = .eq ↔ a.key = b.key := by
  rw [cmp_eq_compare_key, compare_eq_iff_eq]

/-! ## Rounding -/

theorem divHalfAway_mul_self (n : Int) {d : Nat} (hd : 0 < d) : divHalfAway (n * d) d = n := by
  have hd' : (d : Int) ≠ 0 := by omega
  have hcond : ¬ d ≤ 2 * (0 : Int).natAbs := by omega
  rw [divHalfAway, Int.mul_tdiv_cancel _ hd', Int.mul_tmod_left, if_neg hcond]

/-- A common factor changes nothing in the rounding of a quotient. -/
theorem divHalfAway_mul_mul (n : Int) (d : Nat) {p : Nat} (hp : 0 < p) :
    divHalfAway (n * p) (d * p) = divHalfAway n d := by
  have hp' : (0 : Int) < p := Int.natCast_pos.2 hp
  have hcond : d * p ≤ 2 * (n.tmod d * p).natAbs ↔ d ≤ 2 * (n.tmod d).natAbs := by
    rw [Int.natAbs_mul, Int.natAbs_natCast, ← Nat.mul_assoc]
    exact Nat.mul_le_mul_right_iff hp
  have hsign : (n * p).sign = n.sign := by rw [Int.sign_mul, Int.sign_eq_one_of_pos hp', Int.mul_one]
  have hmod : (n * p).tmod (d * p) = n.tmod d * p := by
    rw [Int.mul_comm n, Int.mul_comm (d : Int), Int.mul_tmod_mul_of_pos _ _ hp', Int.mul_comm]
  rw [divHalfAway, divHalfAway, Int.natCast_mul, Int.mul_tdiv_mul_of_pos_left _ _ hp', hmod, hsign]
  simp only [hcond]

/-- The same number with more places is brought to a scale like the number itself. -/
theorem rescale_of_mul {a b : Decimal} (h : a.scale ≤ b.scale)
    (hu : b.unscaled = a.unscaled * tenPow (b.scale - a.scale)) (s : Nat) :
    b.rescale s = a.rescale s := by
  have hb := b.scale_le
  unfold rescale
  by_cases hbs : b.scale ≤ s
  · have has : a.scale ≤ s := Nat.le_trans h hbs
    have hsplit : s - a.scale = (b.scale - a.scale) + (s - b.scale) := by omega
    -- Both are widened.
    rw [if_pos hbs, if_pos has, hu, hsplit, tenPow_add, Int.natCast_mul, Int.mul_assoc]
  · rw [if_neg hbs]
    by_cases has : a.scale ≤ s
    · have hsplit : b.scale - a.scale = (s - a.scale) + (b.scale - s) := by omega
      have hmax : ¬ maxScale < s := by omega
      -- The one is widened and the other narrowed, by a power that it has as a factor.
      rw [if_pos has, if_neg hmax, hu, hsplit, tenPow_add, Int.natCast_mul, ← Int.mul_assoc,
        divHalfAway_mul_self _ (tenPow_pos _)]
    · have hsplit : b.scale - s = (a.scale - s) + (b.scale - a.scale) := by omega
      -- Both are narrowed, and the power that one has too many cancels.
      rw [if_neg has, hu, hsplit, tenPow_add, divHalfAway_mul_mul _ _ (tenPow_pos _)]

theorem unscaled_eq_mul_of_key_eq {a b : Decimal} (h : a.key = b.key) (hle : a.scale ≤ b.scale) :
    b.unscaled = a.unscaled * tenPow (b.scale - a.scale) := by
  have hp : (tenPow (maxScale - b.scale) : Int) ≠ 0 :=
    Int.natCast_ne_zero.2 (tenPow_pos _).ne'
  have hsplit : maxScale - a.scale = (b.scale - a.scale) + (maxScale - b.scale) := by
    have := b.scale_le
    omega
  rw [key, key, unitsAt, unitsAt, hsplit, tenPow_add, Int.natCast_mul, ← Int.mul_assoc] at h
  exact (Int.eq_of_mul_eq_mul_right hp h).symm

/-- Decimals that stand for one number are rounded alike. -/
theorem rescale_congr {a b : Decimal} (h : a.cmp b = .eq) (s : Nat) : a.rescale s = b.rescale s := by
  have hkey := cmp_eq_eq_iff.1 h
  rcases Nat.le_total a.scale b.scale with hle | hle
  · exact (rescale_of_mul hle (unscaled_eq_mul_of_key_eq hkey hle) s).symm
  · exact rescale_of_mul hle (unscaled_eq_mul_of_key_eq hkey.symm hle) s

/-! ## Without needless zeros -/

/-- What is stripped are zeros at the end, and none is left unless no place is. -/
theorem stripZeros_spec (u : Int) (s : Nat) :
    u = (stripZeros u s).1 * tenPow (s - (stripZeros u s).2) ∧
      ((stripZeros u s).2 = 0 ∨ (stripZeros u s).1.tmod 10 ≠ 0) := by
  fun_induction stripZeros u s with
  | case1 u => simp
  | case2 u s hzero ih =>
    obtain ⟨hu, hend⟩ := ih
    refine ⟨?_, hend⟩
    have hle := stripZeros_scale_le (u.tdiv 10) s
    have hsplit : s + 1 - (stripZeros (u.tdiv 10) s).2 = s - (stripZeros (u.tdiv 10) s).2 + 1 := by omega
    rw [hsplit, tenPow_succ, Int.natCast_mul, Int.mul_left_comm, ← hu]
    have := Int.mul_tdiv_add_tmod u 10
    omega
  | case3 u s hzero => simp [hzero]

theorem key_normalize (d : Decimal) : d.normalize.key = d.key := by
  obtain ⟨hu, _⟩ := stripZeros_spec d.unscaled d.scale
  have hle : d.normalize.scale ≤ d.scale := stripZeros_scale_le d.unscaled d.scale
  have hmax := d.scale_le
  have hsplit : maxScale - d.normalize.scale = d.scale - d.normalize.scale + (maxScale - d.scale) := by
    omega
  have hdigits : d.unscaled = d.normalize.unscaled * tenPow (d.scale - d.normalize.scale) := hu
  rw [key, key, unitsAt, unitsAt, hsplit, tenPow_add, Int.natCast_mul, ← Int.mul_assoc, ← hdigits]

/-- Of two decimals without needless zeros that stand for one number, neither has more places. -/
theorem scale_normalize_le {a b : Decimal} (h : a.key = b.key) :
    b.normalize.scale ≤ a.normalize.scale := by
  by_contra hlt
  have hkey : a.normalize.key = b.normalize.key := by rw [key_normalize, key_normalize, h]
  have hmul := unscaled_eq_mul_of_key_eq hkey (by omega)
  obtain ⟨n, hn⟩ := Nat.exists_eq_add_one.2 (show 0 < b.normalize.scale - a.normalize.scale by omega)
  rw [hn, tenPow_succ, Int.natCast_mul, Int.mul_left_comm] at hmul
  rcases (stripZeros_spec b.unscaled b.scale).2 with hzero | hend
  · have : b.normalize.scale = 0 := hzero
    omega
  · -- The digits would end in a zero.
    have : b.normalize.unscaled.tmod 10 ≠ 0 := hend
    rw [hmul] at this
    exact this (Int.mul_tmod_right ..)

theorem eq_of_parts {a b : Decimal} (hunscaled : a.unscaled = b.unscaled)
    (hscale : a.scale = b.scale) : a = b := by
  cases a
  cases b
  cases hunscaled
  cases hscale
  rfl

/-- Decimals stand for one number exactly when they are the same without needless zeros. -/
theorem normalize_eq_iff {a b : Decimal} : a.normalize = b.normalize ↔ a.cmp b = .eq := by
  rw [cmp_eq_eq_iff]
  constructor
  · intro h
    rw [← key_normalize a, ← key_normalize b, h]
  · intro h
    have hscale : a.normalize.scale = b.normalize.scale :=
      Nat.le_antisymm (scale_normalize_le h.symm) (scale_normalize_le h)
    have hkey : a.normalize.key = b.normalize.key := by rw [key_normalize, key_normalize, h]
    have hdigits := unscaled_eq_mul_of_key_eq hkey (Nat.le_of_eq hscale)
    rw [hscale, Nat.sub_self, tenPow_zero, Int.natCast_one, Int.mul_one] at hdigits
    exact eq_of_parts hdigits.symm hscale

end Decimal

end ColumnScan
