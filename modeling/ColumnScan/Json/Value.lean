/-!
# JSON values

A JSON value as a tree. Numbers keep the digits they were written with, because an integer field
and a floating-point field read the same digits differently. A string token may name half of a
surrogate pair, which no text holds; such a token has no text but may still be skipped. So may a
container that is nested deeper than a reader goes, of which nothing is kept.
-/

namespace ColumnScan.Json

/-- A number as it is written. -/
structure Number where
  negative : Bool
  /-- The digits before the point. -/
  whole : List Char
  /-- The digits after the point; none means that there is no point. -/
  fraction : List Char
  /-- The sign and the digits of the exponent. -/
  exponent : Option (Bool × List Char)
deriving DecidableEq, Repr

/-- The text of a string token, `none` when it names half of a surrogate pair. -/
abbrev Text := Option String

end ColumnScan.Json

namespace ColumnScan

/-- A JSON value. -/
inductive Json where
  | null
  | bool (value : Bool)
  | number (value : Json.Number)
  | string (value : Json.Text)
  | array (items : List Json)
  | object (members : List (Json.Text × Json))
  /-- A container nested deeper than a reader goes. -/
  | buried

end ColumnScan

namespace ColumnScan.Json

/-- A string. -/
def ofString (s : String) : Json := .string (some s)

/-- An integer. -/
def ofInt (n : Int) : Json := .number ⟨decide (n < 0), Nat.toDigits 10 n.natAbs, [], none⟩

/-- An object with these members in this order. -/
def ofMembers (members : List (String × Json)) : Json :=
  .object (members.map fun m => (some m.1, m.2))

end ColumnScan.Json
