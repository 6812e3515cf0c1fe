/-!
# Written integers

Reading an integer that is written with an optional sign and at least one of the digits 0 to 9,
and nothing else.
-/

namespace ColumnScan

/-- The number that a run of digits spells, `none` if it is empty or holds anything but digits. -/
def natOfDigits? (cs : List Char) : Option Nat :=
  if cs.isEmpty || !cs.all Char.isDigit then none else some (Nat.ofDigitChars 10 cs 0)

/-- The integer that an optional sign and a run of digits spell. -/
def intOfDigits? : List Char → Option Int
  | '-' :: cs => (natOfDigits? cs).map fun n => -(n : Int)
  | '+' :: cs => (natOfDigits? cs).map fun n => (n : Int)
  | cs => (natOfDigits? cs).map fun n => (n : Int)

theorem natOfDigits?_isSome_iff {cs : List Char} :
    (natOfDigits? cs).isSome = true ↔ cs ≠ [] ∧ ∀ c ∈ cs, c.isDigit = true := by
  unfold natOfDigits?
  cases cs <;> simp

end ColumnScan
