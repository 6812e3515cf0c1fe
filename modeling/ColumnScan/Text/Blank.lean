import ColumnScan.Text.CodeRange

/-!
# Blanks at the ends of a text

A blank is a character with the Unicode property White_Space. `trim` cuts blanks off both ends and
a text is blank when nothing is left. Main statement: `isBlank_iff`, a text is blank exactly when
every character of it is.
-/

namespace ColumnScan.Text

/-- The characters with the property White_Space. -/
def whiteSpace : CharSet :=
  [⟨0x9, 0xd⟩, ⟨0x20, 0x20⟩, ⟨0x85, 0x85⟩, ⟨0xa0, 0xa0⟩, ⟨0x1680, 0x1680⟩, ⟨0x2000, 0x200a⟩,
   ⟨0x2028, 0x2029⟩, ⟨0x202f, 0x202f⟩, ⟨0x205f, 0x205f⟩, ⟨0x3000, 0x3000⟩]

/-- Whether a character is a blank. -/
def isBlankChar (c : Char) : Bool := whiteSpace.has c

/-- The characters between the first and the last one that is not a blank. -/
def trimChars (cs : List Char) : List Char :=
  ((cs.dropWhile isBlankChar).reverse.dropWhile isBlankChar).reverse

/-- A text without the blanks at its ends. -/
def trim (s : String) : String := String.ofList (trimChars s.toList)

/-- Whether nothing but blanks stands in the text. -/
def isBlank (s : String) : Bool := s.toList.all isBlankChar

theorem isBlank_iff {s : String} : isBlank s = true ↔ ∀ c ∈ s.toList, isBlankChar c = true := by
  simp [isBlank]

end ColumnScan.Text
