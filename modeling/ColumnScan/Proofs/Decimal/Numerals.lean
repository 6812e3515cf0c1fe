import ColumnScan.Decimal.Text
import ColumnScan.Proofs.Decimal.Rational

/-!
# The grammar of numerals

A decimal is written as an optional sign, digits with at most one point among them, and an optional
exponent; that is all that is read, whatever blanks stand around it. What is read is exactly the number
that is written. It is too large if its digits, or the zeros that its exponent adds, leave the 128 bits
of a word, and too fine if it asks for more than 38 places. Main statements: `read?_eq_some_iff` and
`read_written`.
-/

namespace ColumnScan

/-! ## Signs and digits -/

/-- How a sign is written. -/
inductive SignChars : Bool → List Char → Prop where
  | absent : SignChars false []
  | plus : SignChars false ['+']
  | minus : SignChars true ['-']

/-- The integer of a sign and a size. -/
def ofSign (negative : Bool) (size : Nat) : Int := if negative then -(size : Int) else size

/-- Nothing but digits, if anything. -/
def DigitsOnly (cs : List Char) : Prop := ∀ c ∈ cs, c.isDigit = true

theorem digitsOnly_append {cs ds : List Char} :
    DigitsOnly (cs ++ ds) ↔ DigitsOnly cs ∧ DigitsOnly ds :=
  List.forall_mem_append

/-- Cuts a sign off, if there is one. -/
def takeSign : List Char → Bool × List Char
  | '-' :: rest => (true, rest)
  | '+' :: rest => (false, rest)
  | rest => (false, rest)

theorem exists_signChars_takeSign (cs : List Char) :
    ∃ sign, SignChars (takeSign cs).1 sign ∧ cs = sign ++ (takeSign cs).2 := by
  unfold takeSign
  split
  · exact ⟨_, .minus, rfl⟩
  · exact ⟨_, .plus, rfl⟩
  · exact ⟨_, .absent, rfl⟩

/-- A sign is cut off what does not begin with a second one. -/
theorem takeSign_append {negative : Bool} {sign cs : List Char} (hsign : SignChars negative sign)
    (hcs : ∀ c ∈ cs.head?, c ≠ '-' ∧ c ≠ '+') : takeSign (sign ++ cs) = (negative, cs) := by
  cases hsign with
  | minus => rfl
  | plus => rfl
  | absent =>
    rw [List.nil_append]
    unfold takeSign
    split
    · exact absurd rfl (hcs '-' rfl).1
    · exact absurd rfl (hcs '+' rfl).2
    · rfl

theorem ne_sign_of_isDigit {c : Char} (h : c.isDigit = true) : c ≠ '-' ∧ c ≠ '+' := by
  constructor <;> rintro rfl <;> exact absurd h (by decide)

theorem natOfDigits?_eq_some_iff {cs : List Char} {n : Nat} :
    natOfDigits? cs = some n ↔ cs ≠ [] ∧ DigitsOnly cs ∧ Nat.ofDigitChars 10 cs 0 = n := by
  rw [← and_assoc, DigitsOnly, ← natOfDigits?_isSome_iff]
  unfold natOfDigits?
  split <;> simp

theorem intOfDigits?_eq (cs : List Char) :
    intOfDigits? cs = (natOfDigits? (takeSign cs).2).map (ofSign (takeSign cs).1) := by
  fun_cases takeSign cs with
  | case1 rest => cases h : natOfDigits? rest <;> simp [intOfDigits?, h, ofSign]
  | case2 rest => cases h : natOfDigits? rest <;> simp [intOfDigits?, h, ofSign]
  | case3 cs hminus hplus =>
    rw [intOfDigits?]
    · cases natOfDigits? cs <;> rfl
    · exact hminus
    · exact hplus

/-- How an integer is written. -/
inductive IntegerChars : Int → List Char → Prop where
  | mk {negative : Bool} {sign digits : List Char} (hsign : SignChars negative sign)
      (hne : digits ≠ []) (hdigits : DigitsOnly digits) :
      IntegerChars (ofSign negative (Nat.ofDigitChars 10 digits 0)) (sign ++ digits)

theorem intOfDigits?_eq_some_iff {cs : List Char} {n : Int} :
    intOfDigits? cs = some n ↔ IntegerChars n cs := by
  rw [intOfDigits?_eq]
  constructor
  · intro h
    obtain ⟨size, hsize, rfl⟩ := Option.map_eq_some_iff.1 h
    obtain ⟨hne, hdigits, rfl⟩ := natOfDigits?_eq_some_iff.1 hsize
    obtain ⟨sign, hsign, hcs⟩ := exists_signChars_takeSign cs
    rw [hcs]
    have hwritten := IntegerChars.mk hsign hne hdigits
    rwa [← hcs] at hwritten ⊢
  · rintro ⟨hsign, hne, hdigits⟩
    rw [takeSign_append hsign fun c hc => ne_sign_of_isDigit (hdigits c (List.mem_of_mem_head? hc)),
      natOfDigits?_eq_some_iff.2 ⟨hne, hdigits, rfl⟩, Option.map_some]

namespace Decimal

/-! ## Cutting at a mark -/

section Cut

variable {p : Char → Bool}

theorem cutAt_cons_of_mark {mark : Char} (h : p mark = true) (after : List Char) :
    cutAt p (mark :: after) = ([], some after) := by
  simp [cutAt, List.span_eq_takeWhile_dropWhile, h]

theorem cutAt_cons_of_not {c : Char} (h : p c = false) (cs : List Char) :
    cutAt p (c :: cs) = (c :: (cutAt p cs).1, (cutAt p cs).2) := by
  simp only [cutAt, List.span_eq_takeWhile_dropWhile, List.takeWhile_cons, List.dropWhile_cons, h]
  cases cs.dropWhile (!p ·) <;> rfl

theorem cutAt_of_forall {cs : List Char} (h : ∀ c ∈ cs, p c = false) : cutAt p cs = (cs, none) := by
  induction cs with
  | nil => rfl
  | cons c cs ih =>
    obtain ⟨hfirst, hrest⟩ := List.forall_mem_cons.1 h
    rw [cutAt_cons_of_not hfirst, ih hrest]

theorem cutAt_append {before after : List Char} {mark : Char} (h : ∀ c ∈ before, p c = false)
    (hmark : p mark = true) : cutAt p (before ++ mark :: after) = (before, some after) := by
  induction before with
  | nil => exact cutAt_cons_of_mark hmark after
  | cons c before ih =>
    obtain ⟨hfirst, hrest⟩ := List.forall_mem_cons.1 h
    rw [List.cons_append, cutAt_cons_of_not hfirst, ih hrest]

/-- A text without a mark stays whole; any other is cut at a mark. -/
theorem cutAt_cases (p : Char → Bool) (cs : List Char) :
    cutAt p cs = (cs, none) ∨
      ∃ before mark after, cs = before ++ mark :: after ∧ p mark = true ∧
        cutAt p cs = (before, some after) := by
  induction cs with
  | nil => exact .inl rfl
  | cons c cs ih =>
    cases hc : p c with
    | true => exact .inr ⟨[], c, cs, rfl, hc, cutAt_cons_of_mark hc cs⟩
    | false =>
      rw [cutAt_cons_of_not hc]
      rcases ih with hwhole | ⟨before, mark, after, rfl, hmark, hcut⟩
      · exact .inl (by rw [hwhole])
      · exact .inr ⟨c :: before, mark, after, rfl, hmark, by rw [hcut]⟩

end Cut

/-! ## Numerals -/

/-- How the digits after the point are written. -/
inductive FractionChars : List Char → List Char → Prop where
  | absent : FractionChars [] []
  | point (fraction : List Char) : FractionChars fraction ('.' :: fraction)

/-- How an exponent of 32 bits is written. -/
inductive ExponentChars : Int → List Char → Prop where
  | absent : ExponentChars 0 []
  | mark {mark : Char} {exponent : Int} {cs : List Char} (hmark : mark = 'e' ∨ mark = 'E')
      (hcs : IntegerChars exponent cs) (hfits : InWidth 32 exponent) :
      ExponentChars exponent (mark :: cs)

/-- How a number is written: a sign, digits with a point among them, of which there is at least one, and
an exponent. -/
inductive Numeral.Written : Numeral → List Char → Prop where
  | mk {negative : Bool} {sign whole fraction point tail : List Char} {exponent : Int}
      (hsign : SignChars negative sign) (hdigits : DigitsOnly (whole ++ fraction))
      (hne : whole ++ fraction ≠ []) (hpoint : FractionChars fraction point)
      (htail : ExponentChars exponent tail) :
      Written ⟨negative, whole ++ fraction, fraction.length, exponent⟩
        (sign ++ (whole ++ point) ++ tail)

theorem ne_of_isDigit {c d : Char} (hc : c.isDigit = true) (hd : d.isDigit = false) : c ≠ d := by
  rintro rfl
  rw [hc] at hd
  cases hd

theorem readExponent?_eq_some_iff {cs : List Char} {exponent : Int} :
    readExponent? cs = some exponent ↔ IntegerChars exponent cs ∧ InWidth 32 exponent := by
  rw [readExponent?, Option.filter_eq_some_iff, intOfDigits?_eq_some_iff, decide_eq_true_iff]

/-- What a text holds from its point on. -/
theorem exists_fractionChars_cutAt (cs : List Char) :
    ∃ point, FractionChars ((cutAt (· == '.') cs).2.getD []) point ∧
      cs = (cutAt (· == '.') cs).1 ++ point := by
  rcases cutAt_cases (· == '.') cs with hcut | ⟨whole, mark, fraction, rfl, hmark, hcut⟩
  · rw [hcut]
    exact ⟨[], .absent, (List.append_nil cs).symm⟩
  · rw [hcut, eq_of_beq hmark]
    exact ⟨_, .point fraction, rfl⟩

theorem cutAt_point {whole fraction point : List Char} (hwhole : DigitsOnly whole)
    (hpoint : FractionChars fraction point) :
    (cutAt (· == '.') (whole ++ point)).1 = whole ∧
      (cutAt (· == '.') (whole ++ point)).2.getD [] = fraction := by
  have hno : ∀ c ∈ whole, (c == '.') = false := fun c hc =>
    beq_eq_false_iff_ne.2 (ne_of_isDigit (hwhole c hc) (by decide))
  cases hpoint with
  | absent =>
    rw [List.append_nil, cutAt_of_forall hno]
    exact ⟨rfl, rfl⟩
  | point fraction =>
    rw [cutAt_append hno rfl]
    exact ⟨rfl, rfl⟩

theorem readMantissa?_eq_some_iff {negative : Bool} {exponent : Int} {cs : List Char} {n : Numeral} :
    readMantissa? negative exponent cs = some n ↔
      ∃ whole fraction point, cs = whole ++ point ∧ FractionChars fraction point ∧
        whole ++ fraction ≠ [] ∧ DigitsOnly (whole ++ fraction) ∧
        n = ⟨negative, whole ++ fraction, fraction.length, exponent⟩ := by
  constructor
  · intro h
    obtain ⟨point, hpoint, hcs⟩ := exists_fractionChars_cutAt cs
    unfold readMantissa? at h
    dsimp only at h
    split at h
    · cases h
    · next hdigits =>
      simp only [Bool.or_eq_true, List.isEmpty_iff, Bool.not_eq_true', not_or, Bool.not_eq_false,
        List.all_eq_true] at hdigits
      exact ⟨_, _, point, hcs, hpoint, hdigits.1, hdigits.2, (Option.some.inj h).symm⟩
  · rintro ⟨whole, fraction, point, rfl, hpoint, hne, hdigits, rfl⟩
    obtain ⟨hwhole, hfraction⟩ := cutAt_point (digitsOnly_append.1 hdigits).1 hpoint
    have hall : (whole ++ fraction).all Char.isDigit = true := List.all_eq_true.2 hdigits
    unfold readMantissa?
    dsimp only
    rw [hwhole, hfraction, hall]
    simp [hne]

/-- The marks of an exponent. -/
def isExponentMark (c : Char) : Bool := c == 'e' || c == 'E'

theorem isExponentMark_eq_true_iff {c : Char} : isExponentMark c = true ↔ c = 'e' ∨ c = 'E' := by
  rw [isExponentMark, Bool.or_eq_true, beq_iff_eq, beq_iff_eq]

/-- The exponent that is read after a mark, zero without one. -/
def exponentAfter? (tail : Option (List Char)) : Option Int := tail.elim (some 0) readExponent?

theorem read?_eq (cs : List Char) :
    Numeral.read? cs =
      (exponentAfter? (cutAt isExponentMark cs).2).bind fun exponent =>
        readMantissa? (takeSign (cutAt isExponentMark cs).1).1 exponent
          (takeSign (cutAt isExponentMark cs).1).2 := by
  have hmark : (fun c => c == 'e' || c == 'E') = isExponentMark := rfl
  rw [Numeral.read?, hmark]
  obtain ⟨mantissa, tail⟩ := cutAt isExponentMark cs
  have hsign : ∀ exponent, (match mantissa with
      | '-' :: rest => readMantissa? true exponent rest
      | '+' :: rest => readMantissa? false exponent rest
      | rest => readMantissa? false exponent rest) =
      readMantissa? (takeSign mantissa).1 exponent (takeSign mantissa).2 := by
    intro exponent
    unfold takeSign
    split <;> rfl
  cases tail with
  | none => exact congrArg (Option.bind _) (funext hsign)
  | some digits => exact congrArg (Option.bind _) (funext hsign)

/-- What a text holds from its exponent on. -/
theorem exists_exponentChars_cutAt {cs : List Char} {exponent : Int}
    (h : exponentAfter? (cutAt isExponentMark cs).2 = some exponent) :
    ∃ tail, ExponentChars exponent tail ∧ cs = (cutAt isExponentMark cs).1 ++ tail := by
  rcases cutAt_cases isExponentMark cs with hcut | ⟨before, mark, after, rfl, hmark, hcut⟩
  · rw [hcut] at h ⊢
    obtain rfl : 0 = exponent := Option.some.inj h
    exact ⟨[], .absent, (List.append_nil cs).symm⟩
  · rw [hcut] at h ⊢
    obtain ⟨hafter, hfits⟩ := readExponent?_eq_some_iff.1 h
    exact ⟨_, .mark (isExponentMark_eq_true_iff.1 hmark) hafter hfits, rfl⟩

theorem cutAt_exponent {mantissa tail : List Char} {exponent : Int}
    (hmantissa : ∀ c ∈ mantissa, isExponentMark c = false) (htail : ExponentChars exponent tail) :
    (cutAt isExponentMark (mantissa ++ tail)).1 = mantissa ∧
      exponentAfter? (cutAt isExponentMark (mantissa ++ tail)).2 = some exponent := by
  cases htail with
  | absent =>
    rw [List.append_nil, cutAt_of_forall hmantissa]
    exact ⟨rfl, rfl⟩
  | mark hmark hcs hfits =>
    rw [cutAt_append hmantissa (isExponentMark_eq_true_iff.2 hmark)]
    exact ⟨rfl, readExponent?_eq_some_iff.2 ⟨hcs, hfits⟩⟩

/-- A number begins with a digit or a point after its sign. -/
theorem head?_mantissa {whole fraction point : List Char} (hdigits : DigitsOnly (whole ++ fraction))
    (hpoint : FractionChars fraction point) : ∀ c ∈ (whole ++ point).head?, c ≠ '-' ∧ c ≠ '+' := by
  cases whole with
  | nil =>
    cases hpoint with
    | absent => exact fun c hc => nomatch hc
    | point fraction =>
      rintro c ⟨⟩
      decide
  | cons d whole =>
    rintro c ⟨⟩
    exact ne_sign_of_isDigit (hdigits d List.mem_cons_self)

theorem mem_sign {negative : Bool} {sign : List Char} (hsign : SignChars negative sign) :
    ∀ c ∈ sign, c ∈ ['+', '-', '.'] := by
  cases hsign <;> simp

/-- Before its exponent a number has signs, points and digits only. -/
theorem mem_mantissa {negative : Bool} {sign whole fraction point : List Char}
    (hsign : SignChars negative sign) (hdigits : DigitsOnly (whole ++ fraction))
    (hpoint : FractionChars fraction point) :
    ∀ c ∈ sign ++ (whole ++ point), c ∈ ['+', '-', '.'] ∨ c.isDigit = true := by
  obtain ⟨hwhole, hfraction⟩ := digitsOnly_append.1 hdigits
  intro c hc
  rcases List.mem_append.1 hc with hc | hc
  · exact .inl (mem_sign hsign c hc)
  · rcases List.mem_append.1 hc with hc | hc
    · exact .inr (hwhole c hc)
    · cases hpoint with
      | absent => cases hc
      | point fraction =>
        rcases List.mem_cons.1 hc with rfl | hc
        · exact .inl (by decide)
        · exact .inr (hfraction c hc)

theorem isExponentMark_eq_false {c : Char} (h : c ∈ ['+', '-', '.'] ∨ c.isDigit = true) :
    isExponentMark c = false := by
  rcases h with h | h
  · rw [List.mem_cons, List.mem_cons, List.mem_singleton] at h
    rcases h with rfl | rfl | rfl <;> decide
  · refine Bool.eq_false_iff.2 fun hmark => ?_
    rcases isExponentMark_eq_true_iff.1 hmark with rfl | rfl <;> exact absurd h (by decide)

/-- Exactly the written numbers are read. -/
theorem read?_eq_some_iff {cs : List Char} {n : Numeral} :
    Numeral.read? cs = some n ↔ n.Written cs := by
  rw [read?_eq]
  constructor
  · intro h
    obtain ⟨exponent, hexponent, hmantissa⟩ := Option.bind_eq_some_iff.1 h
    obtain ⟨tail, htail, hcs⟩ := exists_exponentChars_cutAt hexponent
    generalize (cutAt isExponentMark cs).1 = mantissa at hmantissa hcs
    obtain ⟨sign, hsign, hcut⟩ := exists_signChars_takeSign mantissa
    generalize takeSign mantissa = signed at hmantissa hsign hcut
    obtain ⟨whole, fraction, point, hrest, hpoint, hne, hdigits, rfl⟩ :=
      readMantissa?_eq_some_iff.1 hmantissa
    rw [hrest] at hcut
    rw [hcs, hcut]
    exact .mk hsign hdigits hne hpoint htail
  · rintro ⟨hsign, hdigits, hne, hpoint, htail⟩
    obtain ⟨hmantissa, hexponent⟩ := cutAt_exponent
      (fun c hc => isExponentMark_eq_false (mem_mantissa hsign hdigits hpoint c hc)) htail
    rw [hexponent, hmantissa, Option.bind_some, takeSign_append hsign (head?_mantissa hdigits hpoint)]
    exact readMantissa?_eq_some_iff.2 ⟨_, _, _, rfl, hpoint, hne, hdigits, rfl⟩

/-! ## The number that is written -/

namespace Numeral

/-- The number that is written. -/
def toRat (n : Numeral) : ℚ := ofSign n.negative n.magnitude * 10 ^ (n.exponent - n.places)

/-- The number does not fit the word: its digits do not, or the power of ten that it asks for, or its
digits with as many zeros. -/
def Overflows (n : Numeral) : Prop :=
  2 ^ 127 - 1 < n.magnitude ∨
    n.shift < 0 ∧
      (2 ^ 127 - 1 < 10 ^ (-n.shift).toNat ∨ 2 ^ 127 - 1 < n.magnitude * 10 ^ (-n.shift).toNat)

instance (n : Numeral) : Decidable n.Overflows := inferInstanceAs (Decidable (_ ∨ _))

end Numeral

/-- A power of ten fits the word as long as it is in use. -/
theorem maxMagnitude_lt_pow_iff {n : Nat} : maxMagnitude < 10 ^ n ↔ maxScale < n := by
  have hlast : 10 ^ maxScale ≤ maxMagnitude ∧ maxMagnitude < 10 ^ (maxScale + 1) := by decide
  constructor
  · intro h
    by_contra hle
    have hpow : 10 ^ n ≤ 10 ^ maxScale := Nat.pow_le_pow_right (by decide) (Nat.not_lt.1 hle)
    omega
  · intro h
    have hpow : 10 ^ (maxScale + 1) ≤ 10 ^ n := Nat.pow_le_pow_right (by decide) h
    omega

theorem signed_of_lt {text : String} {negative : Bool} {magnitude scale : Nat}
    (h : maxMagnitude < magnitude) : signed text negative magnitude scale = .error (.overflow text) :=
  dif_neg (Nat.not_le.2 h)

theorem exists_signed {magnitude scale : Nat} (hmagnitude : magnitude ≤ maxMagnitude)
    (hscale : scale ≤ maxScale) (text : String) (negative : Bool) :
    ∃ d, signed text negative magnitude scale = .ok d ∧ d.unscaled = ofSign negative magnitude ∧
      d.scale = scale :=
  ⟨⟨_, scale, inWidth_of_magnitude hmagnitude negative, hscale⟩,
    by rw [signed, dif_pos hmagnitude, make, dif_pos hscale], rfl, rfl⟩

namespace Numeral

variable {n : Numeral}

theorem toDecimal_of_overflows (h : n.Overflows) (text : String) :
    n.toDecimal text = .error (.overflow text) := by
  unfold toDecimal
  by_cases hdigits : maxMagnitude < n.magnitude
  · rw [if_pos hdigits]
  · rw [if_neg hdigits]
    rcases h with hlong | ⟨hzeros, hlong⟩
    · exact absurd hlong hdigits
    · rw [if_pos hzeros]
      by_cases hpower : (maxScale : Int) < -n.shift
      · rw [if_pos hpower]
      · rw [if_neg hpower]
        rcases hlong with hlong | hlong
        · have := maxMagnitude_lt_pow_iff.1 hlong
          omega
        · exact signed_of_lt hlong

theorem toDecimal_of_too_fine (h : ¬n.Overflows) (hfine : 38 < n.shift) (text : String) :
    n.toDecimal text = .error (.scale n.shift) := by
  have hdigits : ¬maxMagnitude < n.magnitude := fun hlong => h (.inl hlong)
  have hplaces : ¬n.shift < 0 := by omega
  rw [toDecimal, if_neg hdigits, if_neg hplaces]
  exact if_pos hfine

theorem exists_toDecimal (h : ¬n.Overflows) (hcoarse : n.shift ≤ 38) (text : String) :
    ∃ d, n.toDecimal text = .ok d ∧ d.scale = n.shift.toNat ∧
      d.unscaled = ofSign n.negative (n.magnitude * 10 ^ (-n.shift).toNat) := by
  have hdigits : ¬maxMagnitude < n.magnitude := fun hlong => h (.inl hlong)
  rw [toDecimal, if_neg hdigits]
  by_cases hzeros : n.shift < 0
  · have hpower : ¬maxMagnitude < 10 ^ (-n.shift).toNat := fun hlong => h (.inr ⟨hzeros, .inl hlong⟩)
    have hproduct : n.magnitude * 10 ^ (-n.shift).toNat ≤ maxMagnitude :=
      Nat.not_lt.1 fun hlong => h (.inr ⟨hzeros, .inr hlong⟩)
    have hsmall : ¬(maxScale : Int) < -n.shift := by
      rw [maxMagnitude_lt_pow_iff] at hpower
      omega
    obtain ⟨d, hd, hunscaled, hscale⟩ := exists_signed hproduct (Nat.zero_le _) text n.negative
    rw [if_pos hzeros, if_neg hsmall]
    exact ⟨d, hd, by omega, hunscaled⟩
  · have hcoarse' : ¬(maxScale : Int) < n.shift := Int.not_lt.2 hcoarse
    have hplaces : n.shift.toNat ≤ maxScale := by
      show n.shift.toNat ≤ 38
      omega
    have hnone : (-n.shift).toNat = 0 := by omega
    obtain ⟨d, hd, hunscaled, hscale⟩ := exists_signed (Nat.not_lt.1 hdigits) hplaces text n.negative
    rw [if_neg hzeros, if_neg hcoarse', hnone, pow_zero, Nat.mul_one]
    exact ⟨d, hd, hscale, hunscaled⟩

/-- A number that is written is valid, whatever else is wrong with it. -/
theorem toDecimal_ne_invalid (n : Numeral) (text : String) : n.toDecimal text ≠ .error (.invalid text) := by
  by_cases hover : n.Overflows
  · rw [toDecimal_of_overflows hover]
    simp
  · by_cases hfine : 38 < n.shift
    · rw [toDecimal_of_too_fine hover hfine]
      simp
    · obtain ⟨d, hd, -⟩ := exists_toDecimal hover (Int.not_lt.1 hfine) text
      rw [hd]
      simp

end Numeral

theorem ofSign_mul (negative : Bool) (m k : Nat) : ofSign negative (m * k) = ofSign negative m * k := by
  cases negative
  · exact Int.natCast_mul m k
  · show -((m * k : Nat) : Int) = -(m : Int) * k
    rw [Int.natCast_mul, Int.neg_mul]

theorem zpow_neg_eq_div (q : ℤ) : (10 : ℚ) ^ (-q) = 10 ^ (-q).toNat / 10 ^ q.toNat := by
  have hq : (-q : ℤ) = (-q).toNat - q.toNat := by omega
  conv => lhs; rw [hq]
  rw [zpow_sub₀ (by norm_num), zpow_natCast, zpow_natCast]

/-- Digits and places that are read are the number that is written. -/
theorem toRat_eq_of_parts {d : Decimal} {n : Numeral} (hscale : d.scale = n.shift.toNat)
    (hunscaled : d.unscaled = ofSign n.negative (n.magnitude * 10 ^ (-n.shift).toNat)) :
    d.toRat = n.toRat := by
  have hexponent : n.exponent - n.places = -n.shift := by
    unfold Numeral.shift
    omega
  rw [toRat, Numeral.toRat, hexponent, zpow_neg_eq_div, hunscaled, hscale, ofSign_mul]
  push_cast
  ring

theorem read_of_written {text : String} {n : Numeral} (h : n.Written (Text.trimChars text.toList)) :
    read text = n.toDecimal text := by
  rw [read, read?_eq_some_iff.2 h]

/-- A text is read if it is a written number, blanks around it aside, and refused as invalid if not. It
is too large for the word or has too many places exactly when the number that is written does; else it
is read as this number, with the places that it asks for. -/
theorem read_written (text : String) :
    (read text = .error (.invalid text) ↔
        ¬∃ n : Numeral, n.Written (Text.trimChars text.toList)) ∧
      ∀ n : Numeral, n.Written (Text.trimChars text.toList) →
        (n.Overflows → read text = .error (.overflow text)) ∧
        (¬n.Overflows → 38 < n.shift → read text = .error (.scale n.shift)) ∧
        (¬n.Overflows → n.shift ≤ 38 →
          ∃ d, read text = .ok d ∧ d.scale = n.shift.toNat ∧
            d.unscaled = ofSign n.negative (n.magnitude * 10 ^ (-n.shift).toNat) ∧
            d.toRat = n.toRat) := by
  refine ⟨⟨?_, fun hnone => ?_⟩, fun n hn => ?_⟩
  · rintro hinvalid ⟨n, hn⟩
    exact n.toDecimal_ne_invalid text (read_of_written hn ▸ hinvalid)
  · cases h : Numeral.read? (Text.trimChars text.toList) with
    | none => rw [read, h]
    | some n => exact absurd ⟨n, read?_eq_some_iff.1 h⟩ hnone
  · rw [read_of_written hn]
    refine ⟨fun h => n.toDecimal_of_overflows h text, fun h hfine => n.toDecimal_of_too_fine h hfine text,
      fun h hcoarse => ?_⟩
    obtain ⟨d, hd, hscale, hunscaled⟩ := n.exists_toDecimal h hcoarse text
    exact ⟨d, hd, hscale, hunscaled, toRat_eq_of_parts hscale hunscaled⟩

/-- A number with blanks around it is read, one whose exponent adds too many zeros does not fit even if
it is zero, and one with too many places is refused for them. -/
theorem read_written_exponents :
    (∃ d, read "\t-1.50e+1\u00a0" = .ok d ∧ d.scale = 1 ∧ d.unscaled = -150 ∧ d.toRat = -15) ∧
      (Numeral.Overflows ⟨false, ['0'], 0, 39⟩ ∧ read "0e39" = .error (.overflow "0e39")) ∧
      read ".1E-38" = .error (.scale 39) := by
  have hlong : Numeral.Overflows ⟨false, ['0'], 0, 39⟩ := by decide
  have hread : ∀ {text : String} {n : Numeral}, Numeral.read? (Text.trimChars text.toList) = some n →
      n.Written (Text.trimChars text.toList) := read?_eq_some_iff.1
  obtain ⟨-, -, hnumber⟩ := (read_written "\t-1.50e+1\u00a0").2 ⟨true, ['1', '5', '0'], 2, 1⟩
    (hread (by decide +kernel))
  obtain ⟨hzeros, -⟩ := (read_written "0e39").2 ⟨false, ['0'], 0, 39⟩ (hread (by decide +kernel))
  obtain ⟨-, hplaces, -⟩ := (read_written ".1E-38").2 ⟨false, ['1'], 1, -38⟩
    (hread (by decide +kernel))
  have hvalue : Numeral.toRat ⟨true, ['1', '5', '0'], 2, 1⟩ = -15 := by
    have hmagnitude : Numeral.magnitude ⟨true, ['1', '5', '0'], 2, 1⟩ = 150 := rfl
    norm_num [Numeral.toRat, hmagnitude, ofSign]
  rw [hvalue] at hnumber
  exact ⟨hnumber (by decide) (by decide), ⟨hlong, hzeros hlong⟩, hplaces (by decide) (by decide)⟩

end Decimal

end ColumnScan
