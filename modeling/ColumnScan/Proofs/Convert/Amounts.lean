import ColumnScan.Proofs.Convert.Parts
import ColumnScan.Proofs.Convert.Stock
import ColumnScan.Proofs.Decimal.Digits
import ColumnScan.Proofs.Decimal.Rounding

/-!
# Decimal columns

A decimal column is offered numbers, as decimals or as texts that are read as such. It holds the integer
nearest to the number in units of its last place, if that has no more digits than the column; a longer
one is out of its range, also where the word that the rounding works on is too short for it. All else
has the wrong kind. Main statement: `ConverterFactory.stores_nearest_decimal`.
-/

namespace ColumnScan

/-! ## The nearest integer of a decimal -/

theorem IsNearest.eq {x : ℚ} {m n : ℤ} (hm : IsNearest x m) (hn : IsNearest x n) : m = n :=
  le_antisymm (hm.mono hn le_rfl) (hn.mono hm le_rfl)

theorem exists_isNearest (x : ℚ) : ∃ n, IsNearest x n := by
  have hnearest := isNearest_divHalfAway x.num x.pos
  rw [Rat.num_div_den] at hnearest
  exact ⟨_, hnearest⟩

namespace Decimal

/-- Digits that leave the word when a decimal is widened are those of a number that leaves it. -/
theorem le_abs_of_rescale_eq_none {d : Decimal} {s : Nat} {r : ℤ} (hs : s ≤ maxScale)
    (h : d.rescale s = none) (hr : IsNearest (d.toRat * 10 ^ s) r) : 2 ^ 127 ≤ |r| := by
  rcases rescale_eq_none_iff.1 h with hmax | ⟨hlt, hfits⟩
  · omega
  · have hexact : d.toRat * 10 ^ s = (d.unscaled * tenPow (s - d.scale) : ℤ) := by
      rw [toRat_eq_unitsAt_div d hlt.le, div_mul_cancel₀ _ (by positivity)]
      rfl
    rw [hexact] at hr
    rw [← hr.eq (isNearest_intCast _)] at hfits
    have hout : ¬(-(2 ^ 127) ≤ r ∧ r < 2 ^ 127) := hfits
    rw [le_abs]
    omega

end Decimal

namespace Converter

variable {precision scale : UInt8} {d : Decimal} {r : ℤ}

/-- So many digits hold an integer exactly if it is below the power of ten. -/
theorem precision_le_iff (hpos : 0 < precision.toNat) (e : Decimal) :
    e.precision ≤ precision.toNat ↔ |e.unscaled| < 10 ^ precision.toNat := by
  have hpow : ((tenPow precision.toNat : Nat) : ℤ) = 10 ^ precision.toNat := by
    show ((10 ^ precision.toNat : Nat) : ℤ) = _
    push_cast
    rfl
  rw [Decimal.precision, Decimal.digitCount_le_iff hpos, Int.abs_eq_natAbs, ← hpow, Int.ofNat_lt]

theorem fitDecimal?_of_lt (valid : (Kind.decimal precision scale).validate = .ok ())
    (hr : IsNearest (d.toRat * 10 ^ scale.toNat) r) (hlt : |r| < 10 ^ precision.toNat) :
    ∃ e, fitDecimal? precision scale d = some e ∧ e.unscaled = r ∧ e.scale = scale.toNat := by
  obtain ⟨hpos, hmax, hscale⟩ := Kind.decimal_of_validate valid
  cases h : d.rescale scale.toNat with
  | none =>
    have hfar := Decimal.le_abs_of_rescale_eq_none (Nat.le_trans hscale hmax) h hr
    have hpow : (10 : ℤ) ^ precision.toNat ≤ 10 ^ maxPrecision :=
      pow_le_pow_right₀ (by decide) hmax
    have hroom : (10 : ℤ) ^ maxPrecision < 2 ^ 127 := by decide
    omega
  | some e =>
    have hdigits : e.unscaled = r := (Decimal.isNearest_rescale h).eq hr
    have hprecision : e.precision ≤ precision.toNat := by
      rw [precision_le_iff hpos, hdigits]
      exact hlt
    exact ⟨e, by rw [fitDecimal?, h, Option.filter_some, decide_eq_true hprecision, if_pos rfl],
      hdigits, Decimal.rescale_scale h⟩

theorem fitDecimal?_of_le (valid : (Kind.decimal precision scale).validate = .ok ())
    (hr : IsNearest (d.toRat * 10 ^ scale.toNat) r) (hle : 10 ^ precision.toNat ≤ |r|) :
    fitDecimal? precision scale d = none := by
  obtain ⟨hpos, -, -⟩ := Kind.decimal_of_validate valid
  cases h : d.rescale scale.toNat with
  | none => rw [fitDecimal?, h, Option.filter_none]
  | some e =>
    have hprecision : ¬e.precision ≤ precision.toNat := by
      rw [precision_le_iff hpos, (Decimal.isNearest_rescale h).eq hr]
      exact Int.not_lt.2 hle
    rw [fitDecimal?, h, Option.filter_some, decide_eq_false hprecision]
    rfl

end Converter

/-! ## Offered numbers -/

/-- The value is a decimal, or a text that is read as one. -/
inductive Native.Names : Native → Decimal → Prop where
  | decimal (d : Decimal) : Names (.scalar (.decimal d)) d
  | text {s : String} {d : Decimal} (h : Decimal.read s = .ok d) : Names (.scalar (.string s)) d

namespace Converter

variable {precision scale : UInt8} {d : Decimal}

theorem decimalOf?_eq_some_iff {value : Native} :
    decimalOf? value = some d ↔ value.Names d := by
  constructor
  · intro h
    unfold decimalOf? at h
    split at h
    · next e =>
      cases h
      exact .decimal d
    · next s =>
      cases hread : Decimal.read s with
      | error e =>
        rw [hread] at h
        cases h
      | ok e =>
        rw [hread] at h
        cases h
        exact .text hread
    · cases h
  · rintro (_ | hread)
    · rfl
    · rw [decimalOf?, hread]
      rfl

theorem decimalOf?_eq_none {value : Native} (h : ∀ d, ¬value.Names d) : decimalOf? value = none :=
  Option.eq_none_iff_forall_ne_some.2 fun d hd => h d (decimalOf?_eq_some_iff.1 hd)

theorem store_decimal_of_none {value : Native} (h : decimalOf? value = none) :
    (decimal precision scale).store value =
      .error (.mismatch (.native value) (.scalar (.decimal precision scale))) := by
  simp only [decimal, h]
  rfl

theorem store_decimal_of_fit {value : Native} {e : Decimal} (h : decimalOf? value = some d)
    (hfit : fitDecimal? precision scale d = some e) :
    (decimal precision scale).store value = .ok (.scalar (.decimal e)) := by
  simp only [decimal, h, hfit]

theorem store_decimal_of_unfit {value : Native} (h : decimalOf? value = some d)
    (hfit : fitDecimal? precision scale d = none) :
    (decimal precision scale).store value =
      .error (.outOfRange (.native value) (.decimal precision scale)) := by
  simp only [decimal, h, hfit]

/-! ## Storing in words -/

/-- The number, if a byte holds it. -/
def byte? (n : Nat) : Option Nat := if n < 256 then some n else none

/-- The decimal that a value names, step by step: outside `none` if a step leaves its word. -/
def decimalInWords? : Native → Option (Option Decimal)
  | .scalar (.decimal d) => some (some d)
  | .scalar (.string s) => (Decimal.readInWords? s).map (·.toOption)
  | _ => some none

/-- The decimal that a column holds, step by step. -/
def fitInWords? (precision scale : UInt8) (d : Decimal) : Option (Option Decimal) :=
  (d.rescaleInWords? scale.toNat).bind fun
    | none => some none
    | some e => (byte? e.precision).map fun digits => if digits ≤ precision.toNat then some e else none

/-- The store of a decimal column, step by step. -/
def storeInWords? (precision scale : UInt8) (value : Native) : Option (Except ConvertError Stored) :=
  (decimalInWords? value).bind fun
    | none => some (refuseNative value (.scalar (.decimal precision scale)))
    | some d => (fitInWords? precision scale d).map fun
      | some e => .ok (.scalar (.decimal e))
      | none => .error (.outOfRange (.native value) (.decimal precision scale))

theorem decimalInWords?_eq (value : Native) : decimalInWords? value = some (decimalOf? value) := by
  fun_cases decimalInWords? value with
  | case1 d => rfl
  | case2 s =>
    rw [Decimal.readInWords?_eq]
    rfl
  | case3 value hdecimal hstring =>
    rw [decimalOf?]
    · exact hdecimal
    · exact hstring

theorem fitInWords?_eq (precision scale : UInt8) (d : Decimal) :
    fitInWords? precision scale d = some (fitDecimal? precision scale d) := by
  rw [fitInWords?, Decimal.rescaleInWords?_eq, Option.bind_some, fitDecimal?]
  cases d.rescale scale.toNat with
  | none => rfl
  | some e =>
    have hbyte : byte? e.precision = some e.precision :=
      if_pos (Nat.lt_of_le_of_lt e.precision_le (by decide))
    dsimp only
    rw [hbyte, Option.map_some, Option.filter_some]
    simp only [decide_eq_true_eq]

/-- No step of storing a decimal leaves its word, unless it is checked. -/
theorem storeInWords?_eq (precision scale : UInt8) (value : Native) :
    storeInWords? precision scale value = some ((decimal precision scale).store value) := by
  rw [storeInWords?, decimalInWords?_eq, Option.bind_some]
  cases h : decimalOf? value with
  | none =>
    rw [store_decimal_of_none h]
    rfl
  | some d =>
    dsimp only
    rw [fitInWords?_eq, Option.map_some]
    cases hfit : fitDecimal? precision scale d with
    | none => rw [store_decimal_of_unfit h hfit]
    | some e => rw [store_decimal_of_fit h hfit]

end Converter

namespace ConverterFactory

open Converter

/-- A valid decimal column stores the integer nearest to a number in units of its last place, if that
has no more digits than the column; a longer one is out of range, and whatever is no number has the wrong
kind. No step of storing leaves its word unless it is checked, and the count of places that a text asks
for needs little more than the length of the text. -/
theorem stores_nearest_decimal {precision scale : UInt8}
    (valid : (DataType.primitive (.decimal precision scale)).validate = .ok ()) :
    ∃ c, stock.build (.primitive (.decimal precision scale)) = .ok c ∧
      (∀ value d, value.Names d →
        (∃ r, IsNearest (d.toRat * 10 ^ scale.toNat) r) ∧
          ∀ r, IsNearest (d.toRat * 10 ^ scale.toNat) r →
            (|r| < 10 ^ precision.toNat →
              ∃ e, c.toStored value = .ok (.scalar (.decimal e)) ∧ e.unscaled = r ∧
                e.scale = scale.toNat) ∧
            (10 ^ precision.toNat ≤ |r| →
              c.toStored value = .error (.outOfRange (.native value) (.decimal precision scale)))) ∧
      (∀ value, value ≠ .null → (∀ d, ¬value.Names d) →
        c.toStored value =
          .error (.mismatch (.native value) (.scalar (.decimal precision scale)))) ∧
      (∀ value, value ≠ .null → storeInWords? precision scale value = some (c.toStored value)) ∧
      ∀ (text : String) (n : Decimal.Numeral), n.Written (Text.trimChars text.toList) →
        -2 ^ 31 < n.shift ∧ n.shift ≤ text.length + 2 ^ 31 := by
  refine ⟨_, stock_build_primitive valid, fun value d hd => ⟨exists_isNearest _, fun r hr => ?_⟩,
    fun value hnull hnone => ?_, fun value hnull => ?_, fun text n => Decimal.Numeral.Written.shift_bounds⟩
  · have hnull : value ≠ .null := by
      rintro rfl
      cases hd
    have hof := decimalOf?_eq_some_iff.2 hd
    rw [toStored_of_ne_null _ hnull]
    refine ⟨fun hlt => ?_, fun hle => store_decimal_of_unfit hof (fitDecimal?_of_le valid hr hle)⟩
    obtain ⟨e, hfit, hunscaled, hscale⟩ := fitDecimal?_of_lt valid hr hlt
    exact ⟨e, store_decimal_of_fit hof hfit, hunscaled, hscale⟩
  · rw [toStored_of_ne_null _ hnull]
    exact store_decimal_of_none (decimalOf?_eq_none hnone)
  · rw [toStored_of_ne_null _ hnull]
    exact storeInWords?_eq precision scale value

/-- Three digits, one of them after the point. -/
theorem stores_nearest_decimal_threeDigits :
    ∃ c e, stock.build (.primitive (.decimal 3 1)) = .ok c ∧
      Native.Names (.scalar (.string " -99.949")) ⟨-99949, 3, by decide, by decide⟩ ∧
      c.toStored (.scalar (.string " -99.949")) = .ok (.scalar (.decimal e)) ∧ e.unscaled = -999 ∧
      c.toStored (.scalar (.string "99.95")) =
        .error (.outOfRange (.native (.scalar (.string "99.95"))) (.decimal 3 1)) ∧
      c.toStored (.scalar (.string "99,9")) =
        .error (.mismatch (.native (.scalar (.string "99,9"))) (.scalar (.decimal 3 1))) := by
  obtain ⟨c, hc, hnumbers, hothers, -, -⟩ := @stores_nearest_decimal 3 1 rfl
  have hbelow : Native.Names (.scalar (.string " -99.949")) ⟨-99949, 3, by decide, by decide⟩ :=
    .text (by rfl)
  have hedge : Native.Names (.scalar (.string "99.95")) ⟨9995, 2, by decide, by decide⟩ := .text (by rfl)
  have hbelowRound : Decimal.rescale ⟨-99949, 3, by decide, by decide⟩ 1 =
      some ⟨-999, 1, by decide, by decide⟩ := by decide
  have hedgeRound : Decimal.rescale ⟨9995, 2, by decide, by decide⟩ 1 =
      some ⟨1000, 1, by decide, by decide⟩ := by decide
  obtain ⟨e, he, hunscaled, -⟩ :=
    ((hnumbers _ _ hbelow).2 _ (Decimal.isNearest_rescale hbelowRound)).1 (by decide)
  refine ⟨c, e, hc, hbelow, he, hunscaled,
    ((hnumbers _ _ hedge).2 _ (Decimal.isNearest_rescale hedgeRound)).2 (by decide),
    hothers _ (by simp) ?_⟩
  rintro d (_ | hread)
  have hinvalid : Decimal.read "99,9" = .error (.invalid "99,9") := rfl
  rw [hinvalid] at hread
  cases hread

end ConverterFactory

end ColumnScan
