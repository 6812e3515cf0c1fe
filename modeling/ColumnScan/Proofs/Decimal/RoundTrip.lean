import ColumnScan.Proofs.Decimal.Numerals

/-!
# Decimals are read as they are written

A decimal is written with its digits, its point before as many of them as its scale says. Read again,
the text is the same digits with the same scale. Only the least integer of 128 bits, whose size is one
more than the largest one, is written and cannot be read. Main statement: `read_text`.
-/

namespace ColumnScan

/-! ## Blanks -/

theorem Text.trimChars_eq_self {cs : List Char} (h : ∀ c ∈ cs, isBlankChar c = false) :
    trimChars cs = cs := by
  have hkeep : ∀ ds : List Char, (∀ c ∈ ds, isBlankChar c = false) → ds.dropWhile isBlankChar = ds := by
    intro ds hds
    cases ds with
    | nil => rfl
    | cons c ds => exact List.dropWhile_cons_of_neg (by simp [hds c List.mem_cons_self])
  rw [trimChars, hkeep cs h, hkeep _ fun c hc => h c (List.mem_reverse.1 hc), List.reverse_reverse]

theorem Text.isBlankChar_of_isDigit {c : Char} (h : c.isDigit = true) : isBlankChar c = false := by
  have hcode : 48 ≤ c.toNat ∧ c.toNat ≤ 57 := by
    simpa [Char.isDigit, UInt32.le_iff_toNat_le] using h
  refine Bool.eq_false_iff.2 fun hblank => ?_
  obtain ⟨r, hr, hfirst, hlast⟩ := CharSet.has_iff.1 hblank
  have hapart : ∀ r ∈ whiteSpace, r.last < 48 ∨ 57 < r.first := by decide
  rcases hapart r hr with hbelow | habove <;> omega

namespace Decimal

/-! ## Digits with zeros in front -/

/-- The digits of a number, one more than `scale` of them at least. -/
def paddedDigits (magnitude scale : Nat) : List Char :=
  List.replicate (scale + 1 - (Nat.toDigits 10 magnitude).length) '0' ++ Nat.toDigits 10 magnitude

theorem lt_length_paddedDigits (magnitude scale : Nat) : scale < (paddedDigits magnitude scale).length := by
  rw [paddedDigits, List.length_append, List.length_replicate]
  omega

theorem digitsOnly_paddedDigits (magnitude scale : Nat) : DigitsOnly (paddedDigits magnitude scale) := by
  refine digitsOnly_append.2 ⟨fun c hc => ?_, fun c => Nat.isDigit_of_mem_toDigits (by decide) (by decide)⟩
  rw [List.eq_of_mem_replicate hc]
  rfl

theorem ofDigitChars_paddedDigits (magnitude scale : Nat) :
    Nat.ofDigitChars 10 (paddedDigits magnitude scale) 0 = magnitude := by
  rw [paddedDigits, Nat.ofDigitChars_append, Nat.ofDigitChars_replicate_zero, Nat.mul_zero,
    Nat.ofDigitChars_ten_toDigits]

/-! ## The written form -/

/-- The parts that a decimal is written in. -/
def numeral (d : Decimal) : Numeral where
  negative := decide (d.unscaled < 0)
  digits := paddedDigits d.unscaled.natAbs d.scale
  places := d.scale
  exponent := 0

/-- The point stands before the last `scale` digits. -/
theorem exists_placed_eq (magnitude scale : Nat) :
    ∃ whole fraction point, placed magnitude scale = whole ++ point ∧ FractionChars fraction point ∧
      whole ++ fraction = paddedDigits magnitude scale ∧ fraction.length = scale := by
  have hlength := lt_length_paddedDigits magnitude scale
  have hplaced : placed magnitude scale =
      (paddedDigits magnitude scale).take ((paddedDigits magnitude scale).length - scale) ++
        if scale = 0 then []
        else '.' :: (paddedDigits magnitude scale).drop ((paddedDigits magnitude scale).length - scale) :=
    rfl
  generalize paddedDigits magnitude scale = digits at hplaced hlength ⊢
  have hfraction : (digits.drop (digits.length - scale)).length = scale := by
    rw [List.length_drop]
    omega
  refine ⟨_, _, _, hplaced, ?_, List.take_append_drop .., hfraction⟩
  by_cases hzero : scale = 0
  · rw [if_pos hzero, List.length_eq_zero_iff.1 (hfraction.trans hzero)]
    exact .absent
  · rw [if_neg hzero]
    exact .point _

theorem written_text (d : Decimal) : d.numeral.Written d.text.toList := by
  obtain ⟨whole, fraction, point, hplaced, hpoint, hdigits, hplaces⟩ :=
    exists_placed_eq d.unscaled.natAbs d.scale
  have hsign : SignChars (decide (d.unscaled < 0)) (if d.unscaled < 0 then ['-'] else []) := by
    by_cases hneg : d.unscaled < 0
    · rw [if_pos hneg, decide_eq_true hneg]
      exact .minus
    · rw [if_neg hneg, decide_eq_false hneg]
      exact .absent
  have hne : whole ++ fraction ≠ [] := by
    rw [hdigits]
    exact List.ne_nil_of_length_pos (Nat.zero_lt_of_lt (lt_length_paddedDigits ..))
  have hall : DigitsOnly (whole ++ fraction) := by
    rw [hdigits]
    exact digitsOnly_paddedDigits _ _
  have hwritten := Numeral.Written.mk hsign hall hne hpoint .absent
  rw [hdigits, hplaces, List.append_nil, ← hplaced] at hwritten
  rw [text, String.toList_ofList]
  exact hwritten

/-- No blank stands in a written number. -/
theorem Numeral.Written.not_blank {n : Numeral} {cs : List Char} (h : n.Written cs) :
    ∀ c ∈ cs, Text.isBlankChar c = false := by
  have hmark : ∀ c ∈ ['+', '-', '.'], Text.isBlankChar c = false := by
    intro c hc
    rw [List.mem_cons, List.mem_cons, List.mem_singleton] at hc
    rcases hc with rfl | rfl | rfl <;> decide
  obtain ⟨hsign, hdigits, _, hpoint, htail⟩ := h
  intro c hc
  rcases List.mem_append.1 hc with hc | hc
  · rcases mem_mantissa hsign hdigits hpoint c hc with hc | hc
    · exact hmark c hc
    · exact Text.isBlankChar_of_isDigit hc
  · cases htail with
    | absent => cases hc
    | mark hexponent hcs _ =>
      obtain ⟨hsign, _, hdigits⟩ := hcs
      rcases List.mem_cons.1 hc with rfl | hc
      · rcases hexponent with rfl | rfl <;> decide
      · rcases List.mem_append.1 hc with hc | hc
        · exact hmark c (mem_sign hsign c hc)
        · exact Text.isBlankChar_of_isDigit (hdigits c hc)

/-! ## Reading the written form -/

theorem magnitude_numeral (d : Decimal) : d.numeral.magnitude = d.unscaled.natAbs :=
  ofDigitChars_paddedDigits ..

theorem shift_numeral (d : Decimal) : d.numeral.shift = d.scale := Int.sub_zero _

/-- Only the least integer of the word is larger than its largest one. -/
theorem overflows_numeral_iff (d : Decimal) : d.numeral.Overflows ↔ d.unscaled = -2 ^ 127 := by
  have hfits : -(2 ^ 127) ≤ d.unscaled ∧ d.unscaled < 2 ^ 127 := d.unscaled_fits
  rw [Numeral.Overflows, magnitude_numeral, shift_numeral]
  omega

theorem ofSign_natAbs (n : Int) : ofSign (decide (n < 0)) n.natAbs = n := by
  by_cases hneg : n < 0
  · rw [decide_eq_true hneg]
    show -(n.natAbs : Int) = n
    omega
  · rw [decide_eq_false hneg]
    show (n.natAbs : Int) = n
    omega

/-- A decimal is read as it is written, digit by digit and place by place, unless it has the least
digits of 128 bits; they are found to be too many. -/
theorem read_text (d : Decimal) :
    read d.text = if d.unscaled = -2 ^ 127 then .error (.overflow d.text) else .ok d := by
  have hwritten := written_text d
  have hread : read d.text = d.numeral.toDecimal d.text := by
    rw [← Text.trimChars_eq_self hwritten.not_blank] at hwritten
    exact read_of_written hwritten
  rw [hread]
  by_cases hleast : d.unscaled = -2 ^ 127
  · rw [if_pos hleast]
    exact Numeral.toDecimal_of_overflows ((overflows_numeral_iff d).2 hleast) d.text
  · have hscale : d.numeral.shift ≤ 38 := by
      rw [shift_numeral]
      exact Int.ofNat_le.2 d.scale_le
    obtain ⟨e, he, hplaces, hdigits⟩ :=
      Numeral.exists_toDecimal (fun h => hleast ((overflows_numeral_iff d).1 h)) hscale d.text
    rw [shift_numeral, Int.toNat_natCast] at hplaces
    rw [shift_numeral, magnitude_numeral, Int.toNat_neg_natCast, pow_zero, Nat.mul_one] at hdigits
    rw [if_neg hleast, he, eq_of_parts (hdigits.trans (ofSign_natAbs _)) hplaces]

end Decimal

end ColumnScan
