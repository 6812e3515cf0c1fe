import ColumnScan.Proofs.Decimal.Order

/-!
# Decimals in words of 128 bits

Digits, powers of ten, quotients, remainders and products are signed words of 128 bits; a remainder
is doubled as an unsigned one. Here every step of a comparison and of a rounding is asked whether it
stays within its word. The naive comparison would not: at a common scale the digits of one side may
need twice the bits. Split into whole part and remainder, no step leaves its word. Main statements:
`cmpInWords?_eq` and `rescaleInWords?_eq`.
-/

namespace ColumnScan

namespace Decimal

/-- The integer, if a signed word holds it. -/
def word? (n : Int) : Option Int := inWord? width n

/-- The number, if an unsigned word holds it. -/
def unsignedWord? (n : Nat) : Option Nat := if n < twoPow width then some n else none

theorem word?_of_inWidth {n : Int} (h : InWidth width n) : word? n = some n :=
  inWord?_of_inWidth h

theorem unsignedWord?_of_lt {n : Nat} (h : n < twoPow width) : unsignedWord? n = some n := if_pos h

/-- The whole part and the remainder of a decimal, step by step. -/
def splitInWords? (d : Decimal) : Option (Int × Int) := do
  let power ← word? (tenPow d.scale)
  let whole ← word? (d.unscaled.tdiv power)
  let remainder ← word? (d.unscaled.tmod power)
  return (whole, remainder)

/-- A remainder with more places, step by step. -/
def widenInWords? (remainder : Int) (places : Nat) : Option Int := do
  let power ← word? (tenPow places)
  word? (remainder * power)

/-- The comparison step by step, `none` if a step leaves its word. -/
def cmpInWords? (a b : Decimal) : Option Ordering :=
  if a.scale = b.scale then some (compare a.unscaled b.unscaled)
  else do
    let (wholeA, remainderA) ← a.splitInWords?
    let (wholeB, remainderB) ← b.splitInWords?
    match compare wholeA wholeB with
    | .eq =>
      let scale := max a.scale b.scale
      let widerA ← widenInWords? remainderA (scale - a.scale)
      let widerB ← widenInWords? remainderB (scale - b.scale)
      return compare widerA widerB
    | order => return order

/-- The rounding step by step: outside `none` if a step leaves its word, inside `none` if there is no
result. Only the product that widens a decimal is checked by the rounding itself. -/
def rescaleInWords? (d : Decimal) (scale : Nat) : Option (Option Decimal) :=
  if maxScale < scale then some none
  else
    match compare scale d.scale with
    | .eq => some (some d)
    | .gt => do
      let power ← word? (tenPow (scale - d.scale))
      return ofParts? (d.unscaled * power) scale
    | .lt => do
      let power ← word? (tenPow (d.scale - scale))
      let quotient ← word? (d.unscaled.tdiv power)
      let remainder ← word? (d.unscaled.tmod power)
      let doubled ← unsignedWord? (remainder.natAbs * 2)
      let digits ← word? (if power.natAbs ≤ doubled then quotient + d.unscaled.sign else quotient)
      return ofParts? digits scale

/-! ## No step leaves its word -/

theorem tenPow_le_of_le_maxScale {n : Nat} (h : n ≤ maxScale) : tenPow n ≤ tenPow maxScale :=
  Nat.pow_le_pow_right (by decide) h

theorem ten_le_tenPow {n : Nat} (h : 0 < n) : 10 ≤ tenPow n := by
  obtain ⟨k, rfl⟩ := Nat.exists_eq_add_one.2 h
  rw [tenPow_succ]
  exact Nat.le_mul_of_pos_right 10 (tenPow_pos k)

/-- The largest power of ten in use is within the word, and so is twice it without a sign. -/
theorem tenPow_maxScale_lt : tenPow maxScale < twoPow (width - 1) ∧ tenPow maxScale * 2 < twoPow width := by
  decide

theorem inWidth_tenPow {n : Nat} (h : n ≤ maxScale) : InWidth width (tenPow n) := by
  have hle := tenPow_le_of_le_maxScale h
  have hlt := tenPow_maxScale_lt.1
  exact ⟨by omega, by omega⟩

theorem splitInWords?_eq (d : Decimal) : d.splitInWords? = some (d.whole, d.remainder) := by
  rw [splitInWords?, word?_of_inWidth (inWidth_tenPow d.scale_le)]
  simp only [Option.bind_eq_bind, Option.bind_some, Option.pure_def]
  rw [word?_of_inWidth (d.unscaled_fits.tdiv (Int.natCast_nonneg _)), word?_of_inWidth (d.unscaled_fits.tmod _)]
  rfl

/-- A remainder at the wider scale stays below one whole, which is within the word. -/
theorem inWidth_remainderAt (d : Decimal) {s : Nat} (hd : d.scale ≤ s) (hs : s ≤ maxScale) :
    InWidth width (d.remainderAt s) := by
  obtain ⟨hgt, hlt, _, _⟩ := d.remainderAt_bounds hd
  have hle := tenPow_le_of_le_maxScale hs
  have hmax := tenPow_maxScale_lt.1
  exact ⟨by omega, by omega⟩

theorem widenInWords?_eq (d : Decimal) {s : Nat} (hd : d.scale ≤ s) (hs : s ≤ maxScale) :
    widenInWords? d.remainder (s - d.scale) = some (d.remainderAt s) := by
  have hplaces : s - d.scale ≤ maxScale := by omega
  rw [widenInWords?, word?_of_inWidth (inWidth_tenPow hplaces)]
  exact word?_of_inWidth (d.inWidth_remainderAt hd hs)

/-- No step of a comparison leaves its word. -/
theorem cmpInWords?_eq (a b : Decimal) : cmpInWords? a b = some (a.cmp b) := by
  have hs : max a.scale b.scale ≤ maxScale := Nat.max_le.2 ⟨a.scale_le, b.scale_le⟩
  rw [cmpInWords?, cmp]
  split
  · rfl
  · rw [splitInWords?_eq, splitInWords?_eq]
    simp only [Option.bind_eq_bind, Option.bind_some, Option.pure_def]
    cases compare a.whole b.whole with
    | lt => rfl
    | gt => rfl
    | eq =>
      rw [widenInWords?_eq a (Nat.le_max_left ..) hs, widenInWords?_eq b (Nat.le_max_right ..) hs]
      rfl

/-- Rounding a quotient to nearest adds one to it at most, and a divisor of ten or more leaves room for
that. -/
theorem inWidth_divHalfAway {n : Int} (h : InWidth width n) {d : Nat} (hd : 10 ≤ d) :
    InWidth width (divHalfAway n d) := by
  have hsize : (n.tdiv d).natAbs ≤ n.natAbs / 10 := by
    rw [Int.natAbs_tdiv]
    exact Nat.div_le_div_left hd (by decide)
  have hsign : n.sign.natAbs ≤ 1 := by
    rw [Int.natAbs_sign]
    split <;> decide
  have hroom : 10 < twoPow (width - 1) := by decide
  unfold InWidth at h ⊢
  unfold divHalfAway
  dsimp only
  split <;> omega

/-- No step of a rounding leaves its word. -/
theorem rescaleInWords?_eq (d : Decimal) (s : Nat) : rescaleInWords? d s = some (d.rescale s) := by
  have hscale := d.scale_le
  unfold rescaleInWords?
  by_cases hmax : maxScale < s
  · have hwide : d.scale ≤ s := by omega
    rw [if_pos hmax, rescale, if_pos hwide, if_pos hmax]
  · rw [if_neg hmax]
    rcases Nat.lt_trichotomy s d.scale with hlt | rfl | hgt
    · have hplaces : d.scale - s ≤ maxScale := by omega
      have hpower : tenPow (d.scale - s) ≤ tenPow maxScale := tenPow_le_of_le_maxScale hplaces
      have hten : 10 ≤ tenPow (d.scale - s) := ten_le_tenPow (Nat.sub_pos_of_lt hlt)
      have hdoubled : (d.unscaled.tmod (tenPow (d.scale - s))).natAbs * 2 < twoPow width := by
        have hrem : (d.unscaled.tmod (tenPow (d.scale - s))).natAbs < tenPow (d.scale - s) := by
          rw [Int.natAbs_tmod, Int.natAbs_natCast]
          exact Nat.mod_lt _ (tenPow_pos _)
        have hroom := tenPow_maxScale_lt.2
        omega
      have hdigits := inWidth_divHalfAway d.unscaled_fits hten
      rw [Nat.compare_eq_lt.2 hlt, rescale, if_neg (Nat.not_le.2 hlt)]
      dsimp only
      rw [word?_of_inWidth (inWidth_tenPow hplaces)]
      simp only [Option.bind_eq_bind, Option.bind_some, Option.pure_def]
      rw [word?_of_inWidth (d.unscaled_fits.tdiv (Int.natCast_nonneg _)), word?_of_inWidth (d.unscaled_fits.tmod _)]
      simp only [Option.bind_some]
      rw [unsignedWord?_of_lt hdoubled, Option.bind_some, Int.natAbs_natCast]
      -- What is left is the rounding itself, the remainder doubled from the other side.
      have hround : (if tenPow (d.scale - s) ≤ (d.unscaled.tmod (tenPow (d.scale - s))).natAbs * 2 then
          d.unscaled.tdiv (tenPow (d.scale - s)) + d.unscaled.sign
          else d.unscaled.tdiv (tenPow (d.scale - s))) = divHalfAway d.unscaled (tenPow (d.scale - s)) := by
        rw [divHalfAway, Nat.mul_comm]
      rw [hround, word?_of_inWidth hdigits, Option.bind_some]
    · rw [Nat.compare_eq_eq.2 rfl, rescale_self]
    · have hplaces : s - d.scale ≤ maxScale := by omega
      rw [Nat.compare_eq_gt.2 hgt, rescale, if_pos hgt.le, if_neg hmax]
      dsimp only
      rw [word?_of_inWidth (inWidth_tenPow hplaces)]
      rfl

end Decimal

end ColumnScan
