import ColumnScan.Proofs.Decimal.Numerals

/-!
# Counting and taking digits

So many digits hold the numbers below that power of ten, and no decimal has more digits than a byte can
count. Digits are taken one after the other, in signed words of 128 bits: a product or a sum that
leaves its word is found there and then, and that is so exactly when the whole number would leave it.
Main statements: `digitCount_le_iff` and `readInWords?_eq`.
-/

namespace ColumnScan.Decimal

/-! ## The number of digits -/

theorem lt_tenPow_digitCount (n : Nat) : n < tenPow (digitCount n) := by
  fun_induction digitCount n with
  | case1 n h => exact h
  | case2 n h ih =>
    rw [tenPow_succ]
    omega

theorem digitCount_le_of_lt {n p : Nat} (hp : 0 < p) (h : n < tenPow p) : digitCount n ≤ p := by
  fun_induction digitCount n generalizing p with
  | case1 n hone => exact hp
  | case2 n hten ih =>
    obtain ⟨p, rfl⟩ := Nat.exists_eq_add_one.2 hp
    have hp' : 0 < p := by
      refine Nat.pos_of_ne_zero fun hzero => ?_
      rw [hzero, tenPow_succ, tenPow_zero] at h
      omega
    rw [tenPow_succ] at h
    exact Nat.succ_le_succ (ih hp' (by omega))

theorem digitCount_le_iff {n p : Nat} (hp : 0 < p) : digitCount n ≤ p ↔ n < tenPow p :=
  ⟨fun h => Nat.lt_of_lt_of_le (lt_tenPow_digitCount n) (Nat.pow_le_pow_right (by decide) h),
    digitCount_le_of_lt hp⟩

theorem natAbs_unscaled_lt {d : Decimal} {precision : Nat} (h : d.precision ≤ precision) :
    d.unscaled.natAbs < tenPow precision :=
  Nat.lt_of_lt_of_le (lt_tenPow_digitCount _) (Nat.pow_le_pow_right (by decide) h)

/-- The largest number of a word has 39 digits. -/
theorem precision_le (d : Decimal) : d.precision ≤ 39 := by
  have hfits : d.unscaled.natAbs ≤ twoPow (width - 1) := by
    obtain ⟨hleast, hlt⟩ := d.unscaled_fits
    omega
  have hroom : twoPow (width - 1) < tenPow 39 := by decide
  exact digitCount_le_of_lt (by decide) (Nat.lt_of_le_of_lt hfits hroom)

/-! ## Digits in words -/

theorem inWidth_natCast_iff {n : Nat} : InWidth width (n : Int) ↔ n ≤ maxMagnitude := by
  have hpos := twoPow_pos (width - 1)
  unfold InWidth maxMagnitude
  omega

theorem word?_natCast_of_lt {n : Nat} (h : maxMagnitude < n) : word? (n : Int) = none :=
  inWord?_of_not_inWidth fun hfits => absurd (inWidth_natCast_iff.1 hfits) (Nat.not_le.2 h)

theorem word?_natCast_of_le {n : Nat} (h : n ≤ maxMagnitude) : word? (n : Int) = some (n : Int) :=
  word?_of_inWidth (inWidth_natCast_iff.2 h)

/-- A number with one more digit, step by step. -/
def appendDigit? (number : Int) (digit : Char) : Option Int := do
  let tens ← word? (number * 10)
  word? (tens + (digit.toNat - '0'.toNat : Nat))

/-- The number that digits spell, step by step. -/
def digitsInWords? (digits : List Char) : Option Int := digits.foldlM appendDigit? 0

theorem appendDigit?_eq (m : Nat) (c : Char) :
    appendDigit? m c = word? ((10 * m + (c.toNat - '0'.toNat) : Nat) : Int) := by
  have hcast : (m : Int) * 10 = (10 * m : Nat) := by omega
  rw [appendDigit?, hcast, Option.bind_eq_bind]
  by_cases htens : 10 * m ≤ maxMagnitude
  · rw [word?_natCast_of_le htens, Option.bind_some, Int.natCast_add]
  · rw [word?_natCast_of_lt (Nat.not_le.1 htens), Option.bind_none, word?_natCast_of_lt (by omega)]

theorem le_ofDigitChars (digits : List Char) (m : Nat) : m ≤ Nat.ofDigitChars 10 digits m := by
  induction digits generalizing m with
  | nil => exact Nat.le_refl m
  | cons c cs ih =>
    rw [Nat.ofDigitChars_cons]
    exact Nat.le_trans (by omega) (ih _)

theorem foldlM_appendDigit? (digits : List Char) {m : Nat} (h : m ≤ maxMagnitude) :
    digits.foldlM appendDigit? (m : Int) = word? (Nat.ofDigitChars 10 digits m : Nat) := by
  induction digits generalizing m with
  | nil => exact (word?_natCast_of_le h).symm
  | cons c cs ih =>
    rw [List.foldlM_cons, appendDigit?_eq, Nat.ofDigitChars_cons]
    by_cases hnext : 10 * m + (c.toNat - '0'.toNat) ≤ maxMagnitude
    · rw [word?_natCast_of_le hnext]
      exact ih hnext
    · -- The number only grows, so it stays out of its word.
      rw [word?_natCast_of_lt (Nat.not_le.1 hnext),
        word?_natCast_of_lt (Nat.lt_of_lt_of_le (Nat.not_le.1 hnext) (le_ofDigitChars ..))]
      rfl

theorem digitsInWords?_eq (digits : List Char) :
    digitsInWords? digits = word? (Nat.ofDigitChars 10 digits 0 : Nat) :=
  foldlM_appendDigit? digits (Nat.zero_le _)

/-! ## Places -/

theorem length_trimChars_le (cs : List Char) : (Text.trimChars cs).length ≤ cs.length := by
  have hdrop : ∀ ds : List Char, (ds.dropWhile Text.isBlankChar).length ≤ ds.length :=
    fun ds => (List.dropWhile_sublist _).length_le
  rw [Text.trimChars, List.length_reverse]
  refine Nat.le_trans (hdrop _) ?_
  rw [List.length_reverse]
  exact hdrop cs

/-- The count of places needs little more than the length of the text and the 32 bits of its exponent. -/
theorem Numeral.Written.shift_bounds {n : Numeral} {text : String}
    (h : n.Written (Text.trimChars text.toList)) :
    -2 ^ 31 < n.shift ∧ n.shift ≤ text.length + 2 ^ 31 := by
  have hlength := length_trimChars_le text.toList
  rw [String.length_toList] at hlength
  generalize Text.trimChars text.toList = cs at h hlength
  cases h with
  | @mk _ sign whole fraction point tail exponent _ _ _ hpoint htail =>
    have hexponent : -2 ^ 31 ≤ exponent ∧ exponent < 2 ^ 31 := by
      cases htail with
      | absent => decide
      | mark _ _ hfits => exact hfits
    have hplaces : fraction.length ≤ point.length := by
      cases hpoint with
      | absent => exact Nat.le_refl 0
      | point fraction => exact Nat.le_succ _
    rw [List.length_append, List.length_append, List.length_append] at hlength
    unfold Numeral.shift
    dsimp only
    omega

/-! ## Reading in words -/

/-- The decimal of a sign, digits and places, step by step. -/
def signedInWords? (negative : Bool) (digits : Int) (scale : Nat) : Option Decimal :=
  (if negative then word? (-digits) else some digits).bind fun unscaled => ofParts? unscaled scale

/-- The decimal that a written number means, step by step: outside `none` if a step leaves its word that
is not checked. The digits, the power of ten that the exponent asks for and their product are. -/
def numeralInWords? (text : String) (n : Numeral) : Option (Except DecimalError Decimal) :=
  match digitsInWords? n.digits with
  | none => some (.error (.overflow text))
  | some digits =>
    if n.shift < 0 then
      match (word? (tenPow (-n.shift).toNat)).bind fun power => word? (digits * power) with
      | none => some (.error (.overflow text))
      | some product => (signedInWords? n.negative product 0).map .ok
    else if (maxScale : Int) < n.shift then some (.error (.scale n.shift))
    else (signedInWords? n.negative digits n.shift.toNat).map .ok

/-- The reading of a text, step by step. -/
def readInWords? (text : String) : Option (Except DecimalError Decimal) :=
  match Numeral.read? (Text.trimChars text.toList) with
  | none => some (.error (.invalid text))
  | some n => numeralInWords? text n

theorem signedInWords?_eq {magnitude scale : Nat} (hmagnitude : magnitude ≤ maxMagnitude)
    (hscale : scale ≤ maxScale) (text : String) (negative : Bool) :
    (signedInWords? negative magnitude scale).map .ok = some (signed text negative magnitude scale) := by
  have hsign : (if negative then word? (-magnitude) else some (magnitude : Int)) =
      some (ofSign negative magnitude) := by
    cases negative with
    | true => exact word?_of_inWidth (inWidth_of_magnitude hmagnitude true)
    | false => rfl
  obtain ⟨d, hd, hunscaled, hplaces⟩ := exists_signed hmagnitude hscale text negative
  rw [signedInWords?, hsign, Option.bind_some,
    ofParts?_eq_some_iff.2 ⟨hunscaled, hplaces⟩, hd, Option.map_some]

theorem numeralInWords?_eq (text : String) (n : Numeral) :
    numeralInWords? text n = some (n.toDecimal text) := by
  have hdigits : digitsInWords? n.digits = word? (n.magnitude : Int) := digitsInWords?_eq n.digits
  rw [numeralInWords?, Numeral.toDecimal, hdigits]
  by_cases hlong : maxMagnitude < n.magnitude
  · rw [word?_natCast_of_lt hlong, if_pos hlong]
  · rw [word?_natCast_of_le (Nat.not_lt.1 hlong), if_neg hlong]
    dsimp only
    by_cases hzeros : n.shift < 0
    · rw [if_pos hzeros, if_pos hzeros]
      by_cases hpower : (maxScale : Int) < -n.shift
      · have hout : maxMagnitude < tenPow (-n.shift).toNat := maxMagnitude_lt_pow_iff.2 (by omega)
        rw [word?_natCast_of_lt hout, if_pos hpower]
        rfl
      · have hin : tenPow (-n.shift).toNat ≤ maxMagnitude :=
          Nat.not_lt.1 fun hout => hpower (by have := maxMagnitude_lt_pow_iff.1 hout; omega)
        rw [word?_natCast_of_le hin, if_neg hpower, Option.bind_some, ← Int.natCast_mul]
        by_cases hproduct : maxMagnitude < n.magnitude * tenPow (-n.shift).toNat
        · rw [word?_natCast_of_lt hproduct, signed_of_lt hproduct]
        · rw [word?_natCast_of_le (Nat.not_lt.1 hproduct)]
          exact signedInWords?_eq (Nat.not_lt.1 hproduct) (Nat.zero_le _) text n.negative
    · rw [if_neg hzeros, if_neg hzeros]
      by_cases hfine : (maxScale : Int) < n.shift
      · rw [if_pos hfine, if_pos hfine]
      · rw [if_neg hfine, if_neg hfine]
        exact signedInWords?_eq (Nat.not_lt.1 hlong) (by omega) text n.negative

/-- No step of a reading leaves its word, unless it is checked. -/
theorem readInWords?_eq (text : String) : readInWords? text = some (read text) := by
  unfold readInWords? read
  cases Numeral.read? (Text.trimChars text.toList) with
  | none => rfl
  | some n => exact numeralInWords?_eq text n

end ColumnScan.Decimal
