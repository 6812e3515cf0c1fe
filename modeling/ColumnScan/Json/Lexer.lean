import ColumnScan.Json.Token

/-!
# Cutting a JSON text into words

`lex` cuts a text into its words and skips the blanks between them; it gives up at the first
character that begins no word. Main statements: `readNumber_length` and `readString_length`, a word
takes at least one character, which is why the cutting ends.
-/

namespace ColumnScan.Json

/-- The blanks between words. -/
def isSpace (c : Char) : Bool := c == ' ' || c == '\n' || c == '\r' || c == '\t'

/-- The value of a digit of base sixteen. -/
def hexValue? (c : Char) : Option Nat :=
  if '0' ≤ c ∧ c ≤ '9' then some (c.toNat - 48)
  else if 'a' ≤ c ∧ c ≤ 'f' then some (c.toNat - 87)
  else if 'A' ≤ c ∧ c ≤ 'F' then some (c.toNat - 55)
  else none

/-- The number that four digits of base sixteen spell. -/
def hexUnit? (a b c d : Char) : Option Nat := do
  let a ← hexValue? a
  let b ← hexValue? b
  let c ← hexValue? c
  let d ← hexValue? d
  return ((a * 16 + b) * 16 + c) * 16 + d

/-- A piece of a string: a character, or a unit of sixteen bits that is given by its number. -/
inductive Piece where
  | char (value : Char)
  | unit (value : Nat)
deriving DecidableEq, Repr

/-- The character that a letter after a backslash stands for. -/
def shortEscape? (c : Char) : Option Char :=
  if c = '"' ∨ c = '\\' ∨ c = '/' then some c
  else if c = 'b' then some '\x08'
  else if c = 'f' then some '\x0c'
  else if c = 'n' then some '\n'
  else if c = 'r' then some '\r'
  else if c = 't' then some '\t'
  else none

/-- The pieces up to the closing quote, and what follows it. -/
def readPieces : List Char → Option (List Piece × List Char)
  | '"' :: rest => some ([], rest)
  | '\\' :: 'u' :: a :: b :: c :: d :: rest => do
    let code ← hexUnit? a b c d
    let (pieces, rest) ← readPieces rest
    return (.unit code :: pieces, rest)
  | '\\' :: c :: rest => do
    let value ← shortEscape? c
    let (pieces, rest) ← readPieces rest
    return (.char value :: pieces, rest)
  | c :: rest =>
    if c.toNat < 0x20 then none
    else do
      let (pieces, rest) ← readPieces rest
      return (.char c :: pieces, rest)
  | [] => none

/-- Whether a unit opens a surrogate pair. -/
def isHighSurrogate (code : Nat) : Bool := decide (0xd800 ≤ code) && decide (code < 0xdc00)

/-- Whether a unit closes a surrogate pair. -/
def isLowSurrogate (code : Nat) : Bool := decide (0xdc00 ≤ code) && decide (code < 0xe000)

/-- The text of the pieces; two units that form a surrogate pair are one character, and half of a
pair has no text. -/
def joinPieces : List Piece → Option (List Char)
  | [] => some []
  | .char c :: rest => (joinPieces rest).map (c :: ·)
  | .unit high :: .unit low :: rest =>
    if isHighSurrogate high then
      if isLowSurrogate low then
        -- Each half of the pair holds ten bits.
        (joinPieces rest).map
          (Char.ofNat (0x10000 + (high - 0xd800) * 0x400 + (low - 0xdc00)) :: ·)
      else none
    else if isLowSurrogate high then none
    else (joinPieces (.unit low :: rest)).map (Char.ofNat high :: ·)
  | .unit code :: rest =>
    if isHighSurrogate code || isLowSurrogate code then none
    else (joinPieces rest).map (Char.ofNat code :: ·)

/-- A string token after its opening quote, and what follows it. -/
def readString (cs : List Char) : Option (Text × List Char) := do
  let (pieces, rest) ← readPieces cs
  return ((joinPieces pieces).map String.ofList, rest)

/-- A run of at least one digit, and what follows it. -/
def readDigits (cs : List Char) : Option (List Char × List Char) :=
  match cs.takeWhile Char.isDigit with
  | [] => none
  | digits => some (digits, cs.dropWhile Char.isDigit)

/-- The digits before the point; a leading zero stands alone. -/
def readWhole : List Char → Option (List Char × List Char)
  | '0' :: rest => some (['0'], rest)
  | cs => readDigits cs

/-- The digits after a point, if there is one. -/
def readFraction : List Char → Option (List Char × List Char)
  | '.' :: rest => readDigits rest
  | cs => some ([], cs)

/-- The exponent after `e`, if there is one. -/
def readExponent (cs : List Char) : Option (Option (Bool × List Char) × List Char) :=
  match cs with
  | c :: rest =>
    if c = 'e' ∨ c = 'E' then
      match rest with
      | '-' :: rest => (readDigits rest).map fun (digits, rest) => (some (true, digits), rest)
      | '+' :: rest => (readDigits rest).map fun (digits, rest) => (some (false, digits), rest)
      | rest => (readDigits rest).map fun (digits, rest) => (some (false, digits), rest)
    else some (none, cs)
  | [] => some (none, [])

/-- A number after its sign. -/
def readUnsigned (negative : Bool) (cs : List Char) : Option (Number × List Char) := do
  let (whole, cs) ← readWhole cs
  let (fraction, cs) ← readFraction cs
  let (exponent, cs) ← readExponent cs
  return (⟨negative, whole, fraction, exponent⟩, cs)

/-- A number, and what follows it. -/
def readNumber : List Char → Option (Number × List Char)
  | '-' :: rest => readUnsigned true rest
  | cs => readUnsigned false cs

/-! ## Every word takes at least one character -/

theorem readPieces_length {cs rest : List Char} {ps : List Piece}
    (h : readPieces cs = some (ps, rest)) : rest.length < cs.length := by
  fun_induction readPieces cs generalizing ps with
  | case1 => simp_all
  | case2 a b c d tail ih =>
    simp only [Option.bind_eq_bind, Option.bind_eq_some_iff] at h
    obtain ⟨code, _, ⟨pieces, rest'⟩, hp, he⟩ := h
    cases he
    have : rest'.length < _ := ih hp
    simp only [List.length_cons]
    omega
  | case3 c tail _ ih =>
    simp only [Option.bind_eq_bind, Option.bind_eq_some_iff] at h
    obtain ⟨value, _, ⟨pieces, rest'⟩, hp, he⟩ := h
    cases he
    have : rest'.length < _ := ih hp
    simp only [List.length_cons]
    omega
  | case4 => cases h
  | case5 c tail _ _ _ _ ih =>
    simp only [Option.bind_eq_bind, Option.bind_eq_some_iff] at h
    obtain ⟨⟨pieces, rest'⟩, hp, he⟩ := h
    cases he
    have : rest'.length < _ := ih hp
    simp only [List.length_cons]
    omega
  | case6 => cases h

theorem readString_length {cs rest : List Char} {t : Text} (h : readString cs = some (t, rest)) :
    rest.length < cs.length := by
  unfold readString at h
  simp only [Option.bind_eq_bind, Option.bind_eq_some_iff] at h
  obtain ⟨⟨pieces, rest'⟩, hp, he⟩ := h
  cases he
  exact readPieces_length hp

theorem readDigits_length {cs ds rest : List Char} (h : readDigits cs = some (ds, rest)) :
    rest.length < cs.length := by
  unfold readDigits at h
  split at h
  · cases h
  · next hd =>
    cases h
    have := congrArg List.length (List.takeWhile_append_dropWhile (p := Char.isDigit) (l := cs))
    rw [List.length_append] at this
    have hne : 0 < (cs.takeWhile Char.isDigit).length := List.length_pos_iff.2 hd
    omega

theorem readWhole_length {cs ds rest : List Char} (h : readWhole cs = some (ds, rest)) :
    rest.length < cs.length := by
  unfold readWhole at h
  split at h
  · cases h; simp
  · exact readDigits_length h

theorem readFraction_length {cs ds rest : List Char} (h : readFraction cs = some (ds, rest)) :
    rest.length ≤ cs.length := by
  unfold readFraction at h
  split at h
  · have := readDigits_length h
    simp only [List.length_cons]
    omega
  · cases h; exact Nat.le_refl _

theorem readExponent_length {cs rest : List Char} {e : Option (Bool × List Char)}
    (h : readExponent cs = some (e, rest)) : rest.length ≤ cs.length := by
  unfold readExponent at h
  split at h
  · split at h
    · split at h <;>
        · obtain ⟨⟨ds, r⟩, hd, he⟩ := Option.map_eq_some_iff.1 h
          have := readDigits_length hd
          cases he
          simp only [List.length_cons]
          omega
    · cases h; exact Nat.le_refl _
  · cases h; exact Nat.le_refl _

theorem readUnsigned_length {negative : Bool} {cs rest : List Char} {n : Number}
    (h : readUnsigned negative cs = some (n, rest)) : rest.length < cs.length := by
  unfold readUnsigned at h
  simp only [Option.bind_eq_bind, Option.bind_eq_some_iff] at h
  obtain ⟨⟨whole, r₁⟩, hw, ⟨fraction, r₂⟩, hf, ⟨exponent, r₃⟩, he, hr⟩ := h
  cases hr
  have := readWhole_length hw
  have := readFraction_length hf
  have := readExponent_length he
  simp only at *
  omega

theorem readNumber_length {cs rest : List Char} {n : Number}
    (h : readNumber cs = some (n, rest)) : rest.length < cs.length := by
  unfold readNumber at h
  split at h
  · have := readUnsigned_length h
    simp only [List.length_cons]
    omega
  · exact readUnsigned_length h

/-- The word that a text begins with, blanks not being skipped, and what follows it. -/
def readToken : List Char → Option (Token × List Char)
  | '\x7b' :: rest => some (.openBrace, rest)
  | '\x7d' :: rest => some (.closeBrace, rest)
  | '[' :: rest => some (.openBracket, rest)
  | ']' :: rest => some (.closeBracket, rest)
  | ':' :: rest => some (.colon, rest)
  | ',' :: rest => some (.comma, rest)
  | 'n' :: 'u' :: 'l' :: 'l' :: rest => some (.null, rest)
  | 't' :: 'r' :: 'u' :: 'e' :: rest => some (.bool true, rest)
  | 'f' :: 'a' :: 'l' :: 's' :: 'e' :: rest => some (.bool false, rest)
  | '"' :: rest => (readString rest).map fun (t, rest) => (.string t, rest)
  | cs => (readNumber cs).map fun (n, rest) => (.number n, rest)

theorem readToken_length {cs rest : List Char} {t : Token} (h : readToken cs = some (t, rest)) :
    rest.length < cs.length := by
  unfold readToken at h
  split at h
  case h_10 =>
    obtain ⟨⟨s, r⟩, hs, he⟩ := Option.map_eq_some_iff.1 h
    cases he
    have := readString_length hs
    simp only [List.length_cons]
    omega
  case h_11 =>
    obtain ⟨⟨n, r⟩, hn, he⟩ := Option.map_eq_some_iff.1 h
    cases he
    exact readNumber_length hn
  all_goals
    cases h
    simp only [List.length_cons]
    omega

/-- The words of a text, `none` if it is not made of words and blanks. -/
def lex : List Char → Option (List Token)
  | [] => some []
  | c :: rest =>
    if isSpace c then lex rest
    else
      match _h : readToken (c :: rest) with
      | none => none
      | some (token, after) => (lex after).map (token :: ·)
termination_by cs => cs.length
decreasing_by
  · simp
  · exact readToken_length _h

end ColumnScan.Json
