/-!
# Sets of characters as ranges of code points

A property of characters is given as a list of ranges, in ascending order and apart from one
another. Main statement: `has_iff` says membership range by range.
-/

namespace ColumnScan.Text

/-- The code points from `first` to `last`, both included. -/
structure CodeRange where
  first : Nat
  last : Nat
deriving DecidableEq, Repr

/-- Whether a code point lies in the range. -/
def CodeRange.contains (r : CodeRange) (code : Nat) : Bool :=
  decide (r.first ≤ code) && decide (code ≤ r.last)

@[simp] theorem CodeRange.contains_iff {r : CodeRange} {code : Nat} :
    r.contains code = true ↔ r.first ≤ code ∧ code ≤ r.last := by
  simp [CodeRange.contains]

/-- A set of characters: those whose code point lies in one of the ranges. -/
abbrev CharSet := List CodeRange

/-- Whether a character belongs to the set. -/
def CharSet.has (s : CharSet) (c : Char) : Bool :=
  s.any (·.contains c.toNat)

theorem CharSet.has_iff {s : CharSet} {c : Char} :
    s.has c = true ↔ ∃ r ∈ s, r.first ≤ c.toNat ∧ c.toNat ≤ r.last := by
  simp [CharSet.has]

end ColumnScan.Text
