import ColumnScan.Json.Lexer
import Mathlib.Tactic.SplitIfs

/-!
# Written words are read again

Every word of a JSON text is read as it is written, whatever follows it, except that a number has to
be followed by something that does not go on with it. So a text that is made of words is cut into
these words. Main statements: `readString_escapeText`, `readNumber_chars` and `lex_chars`.
-/

namespace ColumnScan.Json

/-! ## Numbers -/

/-- A run of digits with at least one in it. -/
structure IsDigits (ds : List Char) : Prop where
  ne_nil : ds ≠ []
  isDigit : ∀ c ∈ ds, c.isDigit = true

/-- The digits of a number make up a written number: there are digits wherever there have to be, and no
needless zero in front. -/
structure Number.WellWritten (n : Number) : Prop where
  whole : IsDigits n.whole
  leading : ∀ rest, n.whole = '0' :: rest → rest = []
  fraction : ∀ c ∈ n.fraction, c.isDigit = true
  exponent : ∀ negative digits, n.exponent = some (negative, digits) → IsDigits digits

/-- The text does not go on with digits. -/
def EndsDigits (cs : List Char) : Prop := ∀ c ∈ cs.head?, c.isDigit = false

/-- The text does not go on with a number: with digits, a point or an exponent. -/
def EndsNumber (cs : List Char) : Prop :=
  ∀ c ∈ cs.head?, c.isDigit = false ∧ c ≠ '.' ∧ c ≠ 'e' ∧ c ≠ 'E'

theorem EndsNumber.endsDigits {cs : List Char} (h : EndsNumber cs) : EndsDigits cs :=
  fun c hc => (h c hc).1

theorem endsDigits_cons {c : Char} (h : c.isDigit = false) (cs : List Char) :
    EndsDigits (c :: cs) := by
  intro d hd
  obtain rfl : c = d := Option.some.inj hd
  exact h

theorem readDigits_append {ds rest : List Char} (hds : IsDigits ds) (hrest : EndsDigits rest) :
    readDigits (ds ++ rest) = some (ds, rest) := by
  have hstop : rest.takeWhile Char.isDigit = [] ∧ rest.dropWhile Char.isDigit = rest := by
    cases rest with
    | nil => exact ⟨rfl, rfl⟩
    | cons c rest =>
      have hc : ¬c.isDigit = true := by simp [hrest c rfl]
      exact ⟨List.takeWhile_cons_of_neg hc, List.dropWhile_cons_of_neg hc⟩
  rw [readDigits, List.takeWhile_append_of_pos hds.isDigit, List.dropWhile_append_of_pos hds.isDigit,
    hstop.1, hstop.2, List.append_nil]
  cases ds with
  | nil => exact absurd rfl hds.ne_nil
  | cons d ds => rfl

theorem readWhole_append {n : Number} (hn : n.WellWritten) {rest : List Char}
    (hrest : EndsDigits rest) : readWhole (n.whole ++ rest) = some (n.whole, rest) := by
  have hread : readDigits (n.whole ++ rest) = some (n.whole, rest) :=
    readDigits_append hn.whole hrest
  cases hwhole : n.whole with
  | nil => exact absurd hwhole hn.whole.ne_nil
  | cons c ds =>
    rw [hwhole] at hread
    by_cases hc : c = '0'
    · subst hc
      obtain rfl := hn.leading ds hwhole
      rfl
    · rw [← hread, List.cons_append, readWhole]
      rintro tail ⟨⟩
      exact hc rfl

/-- What is written of a number after its fraction. -/
def exponentChars : Option (Bool × List Char) → List Char
  | none => []
  | some (negative, digits) => 'e' :: (if negative then '-' else '+') :: digits

/-- What is written of a number after its whole part. -/
def fractionChars (fraction : List Char) : List Char :=
  if fraction.isEmpty then [] else '.' :: fraction

theorem Number.chars_eq (n : Number) :
    n.chars = (if n.negative then ['-'] else []) ++
      (n.whole ++ (fractionChars n.fraction ++ exponentChars n.exponent)) := by
  rw [Number.chars, fractionChars, List.append_assoc, List.append_assoc]
  cases n.exponent <;> rfl

theorem readExponent_append {e : Option (Bool × List Char)}
    (he : ∀ negative digits, e = some (negative, digits) → IsDigits digits) {rest : List Char}
    (hrest : EndsNumber rest) : readExponent (exponentChars e ++ rest) = some (e, rest) := by
  cases e with
  | none =>
    cases rest with
    | nil => rfl
    | cons c rest =>
      obtain ⟨_, _, hlower, hupper⟩ := hrest c rfl
      exact if_neg (not_or.2 ⟨hlower, hupper⟩)
  | some e =>
    obtain ⟨negative, digits⟩ := e
    have hread := readDigits_append (he negative digits rfl) hrest.endsDigits
    cases negative <;> simp [exponentChars, readExponent, hread]

theorem endsDigits_exponentChars {rest : List Char} (e : Option (Bool × List Char))
    (hrest : EndsNumber rest) : EndsDigits (exponentChars e ++ rest) := by
  cases e with
  | none => exact hrest.endsDigits
  | some e => exact endsDigits_cons (by decide) _

theorem readFraction_append {fraction : List Char} (hdigits : ∀ c ∈ fraction, c.isDigit = true)
    (e : Option (Bool × List Char)) {rest : List Char} (hrest : EndsNumber rest) :
    readFraction (fractionChars fraction ++ (exponentChars e ++ rest)) =
      some (fraction, exponentChars e ++ rest) := by
  cases fraction with
  | nil =>
    show readFraction (exponentChars e ++ rest) = _
    rw [readFraction]
    rintro tail htail
    -- Neither an exponent nor what follows a number begins with a point.
    cases e with
    | none =>
      have htail : rest = '.' :: tail := htail
      exact (hrest '.' (by rw [htail]; rfl)).2.1 rfl
    | some e => cases htail
  | cons c ds =>
    exact readDigits_append ⟨List.cons_ne_nil c ds, hdigits⟩ (endsDigits_exponentChars e hrest)

theorem endsDigits_fractionChars {rest : List Char} (fraction : List Char)
    (e : Option (Bool × List Char)) (hrest : EndsNumber rest) :
    EndsDigits (fractionChars fraction ++ (exponentChars e ++ rest)) := by
  cases fraction with
  | nil => exact endsDigits_exponentChars e hrest
  | cons c ds => exact endsDigits_cons (by decide) _

/-- A number is read as it is written. -/
theorem readNumber_chars {n : Number} (hn : n.WellWritten) {rest : List Char}
    (hrest : EndsNumber rest) : readNumber (n.chars ++ rest) = some (n, rest) := by
  have hunsigned : readUnsigned n.negative
      (n.whole ++ (fractionChars n.fraction ++ (exponentChars n.exponent ++ rest))) =
        some (n, rest) := by
    rw [readUnsigned, readWhole_append hn (endsDigits_fractionChars _ _ hrest)]
    simp only [Option.bind_eq_bind, Option.bind_some]
    rw [readFraction_append hn.fraction _ hrest]
    simp only [Option.bind_some]
    rw [readExponent_append hn.exponent hrest]
    rfl
  rw [Number.chars_eq]
  simp only [List.append_assoc]
  cases hsign : n.negative with
  | true =>
    rw [hsign] at hunsigned
    exact hunsigned
  | false =>
    rw [hsign] at hunsigned
    rw [← hunsigned]
    -- Without a sign the first character is a digit, so it is not taken for one.
    show readNumber (n.whole ++ _) = _
    rw [readNumber]
    intro tail htail
    cases hwhole : n.whole with
    | nil => exact hn.whole.ne_nil hwhole
    | cons c ds =>
      rw [hwhole] at htail
      cases htail
      exact absurd (hn.whole.isDigit '-' (by rw [hwhole]; exact List.mem_cons_self)) (by decide)

/-! ## Strings -/

/-- What a written character is read as: a control that has no short escape by its number. -/
def pieceOf (c : Char) : Piece :=
  if c.toNat < 0x20 ∧ c ∉ ['\x08', '\x0c', '\n', '\r', '\t'] then .unit c.toNat else .char c

/-- A control is written with four digits, of which the first two are zeros. -/
theorem numberedEscape_spec : ∀ code < 0x20,
    numberedEscape code =
        ['\\', 'u', '0', '0', Nat.digitChar (code / 16), Nat.digitChar (code % 16)] ∧
      hexUnit? '0' '0' (Nat.digitChar (code / 16)) (Nat.digitChar (code % 16)) = some code := by
  decide

theorem readPieces_numberedEscape {code : Nat} (h : code < 0x20) (rest : List Char) :
    readPieces (numberedEscape code ++ rest) =
      (readPieces rest).map fun (pieces, rest) => (.unit code :: pieces, rest) := by
  obtain ⟨hchars, hcode⟩ := numberedEscape_spec code h
  rw [hchars]
  show readPieces ('\\' :: 'u' :: '0' :: '0' :: Nat.digitChar (code / 16) ::
    Nat.digitChar (code % 16) :: rest) = _
  rw [readPieces, hcode]
  cases readPieces rest <;> rfl

theorem readPieces_shortEscape {letter value : Char} (hletter : letter ≠ 'u')
    (hvalue : shortEscape? letter = some value) (rest : List Char) :
    readPieces ('\\' :: letter :: rest) =
      (readPieces rest).map fun (pieces, rest) => (.char value :: pieces, rest) := by
  rw [readPieces]
  · rw [hvalue]
    cases readPieces rest <;> rfl
  · intro a b c d tail heq
    exact absurd heq hletter

/-- A character that stands for itself. -/
theorem readPieces_self {c : Char} (hquote : c ≠ '"') (hslash : c ≠ '\\') (hcontrol : ¬c.toNat < 0x20)
    (rest : List Char) :
    readPieces (c :: rest) =
      (readPieces rest).map fun (pieces, rest) => (.char c :: pieces, rest) := by
  rw [readPieces]
  · rw [if_neg hcontrol]
    cases readPieces rest <;> rfl
  all_goals
    intros
    simp_all

/-- A written character gives its piece, whatever follows it. -/
theorem readPieces_escapeChar (c : Char) (rest : List Char) :
    readPieces (escapeChar c ++ rest) =
      (readPieces rest).map fun (pieces, rest) => (pieceOf c :: pieces, rest) := by
  unfold escapeChar
  split_ifs with hquote hslash hback hfeed hline hreturn htab hcontrol
  -- The characters with a letter of their own come first.
  iterate 7
    · subst c
      exact readPieces_shortEscape (by decide) (by decide) rest
  · have hpiece : pieceOf c = .unit c.toNat :=
      if_pos ⟨hcontrol, by simp [hback, hfeed, hline, hreturn, htab]⟩
    rw [hpiece]
    exact readPieces_numberedEscape hcontrol rest
  · have hpiece : pieceOf c = .char c := if_neg fun h => hcontrol h.1
    rw [hpiece]
    exact readPieces_self hquote hslash hcontrol rest

theorem joinPieces_cons (c : Char) (ps : List Piece) :
    joinPieces (pieceOf c :: ps) = (joinPieces ps).map (c :: ·) := by
  unfold pieceOf
  split
  next h =>
    have hhigh : isHighSurrogate c.toNat = false := by
      rw [isHighSurrogate, Bool.and_eq_false_iff, decide_eq_false_iff_not, decide_eq_false_iff_not]
      omega
    have hlow : isLowSurrogate c.toNat = false := by
      rw [isLowSurrogate, Bool.and_eq_false_iff, decide_eq_false_iff_not, decide_eq_false_iff_not]
      omega
    cases ps with
    | nil => simp [joinPieces, hhigh, hlow, Char.ofNat_toNat]
    | cons p ps =>
      cases p <;> simp [joinPieces, hhigh, hlow, Char.ofNat_toNat]
  next => rfl

/-- A text is read as it is written. -/
theorem readString_escapeText (s : String) (rest : List Char) :
    readString (escapeText (some s) ++ '"' :: rest) = some (some s, rest) := by
  have hpieces : ∀ cs : List Char, readPieces (cs.flatMap escapeChar ++ '"' :: rest) =
      some (cs.map pieceOf, rest) := by
    intro cs
    induction cs with
    | nil => rfl
    | cons c cs ih =>
      rw [List.flatMap_cons, List.append_assoc, readPieces_escapeChar, ih]
      rfl
  have hjoin : ∀ cs : List Char, joinPieces (cs.map pieceOf) = some cs := by
    intro cs
    induction cs with
    | nil => rfl
    | cons c cs ih => rw [List.map_cons, joinPieces_cons, ih, Option.map_some]
  rw [readString, escapeText, hpieces]
  simp [hjoin]

/-! ## Words -/

/-- The word can be written: a number has its digits and a string its text. -/
def Token.WellWritten : Token → Prop
  | .number n => n.WellWritten
  | .string s => s.isSome = true
  | _ => True

/-- Only a number begins with a digit or a minus. -/
theorem readToken_number {c : Char} (hc : c.isDigit = true ∨ c = '-') (cs : List Char) :
    readToken (c :: cs) = (readNumber (c :: cs)).map fun (n, rest) => (.number n, rest) := by
  have hother : ∀ d : Char, d.isDigit = false → d ≠ '-' → c ≠ d := by
    rintro d hdigit hminus rfl
    rcases hc with hc | hc
    · rw [hc] at hdigit
      cases hdigit
    · exact hminus hc
  rw [readToken]
  all_goals
    intros
    rename_i heq
    exact absurd (List.cons.inj heq).1 (hother _ (by decide) (by decide))

theorem head_number_chars {n : Number} (hn : n.WellWritten) (rest : List Char) :
    ∃ c cs, n.chars ++ rest = c :: cs ∧ (c.isDigit = true ∨ c = '-') := by
  rw [Number.chars_eq]
  cases n.negative with
  | true => exact ⟨'-', _, rfl, .inr rfl⟩
  | false =>
    cases hwhole : n.whole with
    | nil => exact absurd hwhole hn.whole.ne_nil
    | cons c ds => exact ⟨c, _, rfl, .inl (hn.whole.isDigit c (hwhole ▸ List.mem_cons_self))⟩

/-- A word is read as it is written. -/
theorem readToken_chars {t : Token} (ht : t.WellWritten) {rest : List Char}
    (hrest : ∀ n, t = .number n → EndsNumber rest) :
    readToken (t.chars ++ rest) = some (t, rest) := by
  cases t with
  | number n =>
    obtain ⟨c, cs, hchars, hc⟩ := head_number_chars ht rest
    have hread : readNumber (n.chars ++ rest) = some (n, rest) := readNumber_chars ht (hrest n rfl)
    show readToken (n.chars ++ rest) = _
    rw [hchars, readToken_number hc, ← hchars, hread, Option.map_some]
  | string s =>
    cases s with
    | none => cases ht
    | some s =>
      show readToken ('"' :: (escapeText (some s) ++ ['"'] ++ rest)) = _
      rw [readToken, List.append_assoc, List.singleton_append, readString_escapeText,
        Option.map_some]
  | bool b => cases b <;> rfl
  | _ => rfl

/-- No word begins with a blank. -/
theorem isSpace_of_readToken {c : Char} {cs : List Char} {p : Token × List Char}
    (h : readToken (c :: cs) = some p) : isSpace c = false := by
  cases hspace : isSpace c with
  | false => rfl
  | true =>
    simp only [isSpace, Bool.or_eq_true, beq_iff_eq] at hspace
    rcases hspace with ((rfl | rfl) | rfl) | rfl <;> cases h

theorem lex_of_readToken {cs rest : List Char} {t : Token} (h : readToken cs = some (t, rest)) :
    lex cs = (lex rest).map (t :: ·) := by
  cases cs with
  | nil => cases h
  | cons c cs =>
    rw [lex, if_neg (by rw [isSpace_of_readToken h]; decide)]
    split
    next hnone =>
      rw [h] at hnone
      cases hnone
    next token after hsome =>
      rw [h] at hsome
      cases hsome
      rfl

/-- A written word is cut off, unless it is a number that goes on. -/
theorem lex_chars {t : Token} (ht : t.WellWritten) {rest : List Char}
    (hrest : ∀ n, t = .number n → EndsNumber rest) :
    lex (t.chars ++ rest) = (lex rest).map (t :: ·) :=
  lex_of_readToken (readToken_chars ht hrest)

end ColumnScan.Json
