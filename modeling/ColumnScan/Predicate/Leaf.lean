import ColumnScan.Ieee.Order
import ColumnScan.Ieee.Text
import ColumnScan.Text.CaseMap

/-!
# Leaves of a predicate

A leaf compares one column with literals. Literals do not know the type of the column: every integer
is a `long`, every floating-point number a `float`, and a decimal is kept as text. Two leaves are the
same when their parts are; a floating-point literal is compared as a number, so a not-a-number makes
a leaf differ from itself.
-/

namespace ColumnScan

/-- How a leaf compares its column. The comparisons with greater numbers are the negations of these
two. -/
inductive Operator where
  | equals
  | nullSafeEquals
  | lessThan
  | lessThanEquals
  | inList
  | between
  | isNull
deriving DecidableEq, Repr

/-- An operator as it is written. -/
def Operator.text : Operator → String
  | .equals => "="
  | .nullSafeEquals => "<=>"
  | .lessThan => "<"
  | .lessThanEquals => "<="
  | .inList => "IN"
  | .between => "BETWEEN"
  | .isNull => "IS NULL"

/-- What a column is compared with. -/
inductive Literal where
  | null
  | boolean (value : Bool)
  | long (value : Int64)
  | float (value : Ieee.Double)
  | string (value : String)
  | decimal (value : String)
  | timestamp (nanos : Int64)
  | date (days : Int32)
deriving DecidableEq

namespace Literal

/-- Whether the literal is null. -/
def isNull : Literal → Bool
  | .null => true
  | _ => false

/-- The name of the kind of literal. -/
def kindName : Literal → String
  | .null => "null"
  | .boolean _ => "boolean"
  | .long _ => "long"
  | .float _ => "float"
  | .string _ => "string"
  | .decimal _ => "decimal"
  | .timestamp _ => "timestamp"
  | .date _ => "date"

/-- A literal as it is shown. -/
def text : Literal → String
  | .null => "NULL"
  | .boolean b => if b then "true" else "false"
  | .long n => toString n.toInt
  | .float x => x.text
  | .string s => "'" ++ s ++ "'"
  | .decimal s => s ++ "BD"
  | .timestamp n => "timestamp(" ++ toString n.toInt ++ ")"
  | .date n => "date(" ++ toString n.toInt ++ ")"

/-- Whether two literals are the same. -/
def same : Literal → Literal → Bool
  | .float a, .float b => a.compare? b == some .eq
  | a, b => a == b

end Literal

/-- A comparison of one column with literals. -/
structure Leaf where
  operator : Operator
  column : String
  literals : List Literal
deriving DecidableEq

namespace Leaf

/-- The comparison of a column, whose name is taken in lower case. -/
def make (operator : Operator) (column : String) (literals : List Literal) : Leaf :=
  ⟨operator, Text.lowercase column, literals⟩

/-- The first literal. -/
def literal? (l : Leaf) : Option Literal := l.literals.head?

/-- Whether two lists of literals are the same. -/
def sameLiterals : List Literal → List Literal → Bool
  | [], [] => true
  | a :: as, b :: bs => a.same b && sameLiterals as bs
  | _, _ => false

/-- Whether two leaves are the same. -/
def same (a b : Leaf) : Bool :=
  a.operator == b.operator && a.column == b.column && sameLiterals a.literals b.literals

/-- A leaf as it is shown. -/
def text (l : Leaf) : String :=
  match l.operator with
  | .isNull => l.column ++ " IS NULL"
  | .inList | .between =>
    l.column ++ " " ++ l.operator.text ++ " (" ++ ", ".intercalate (l.literals.map (·.text)) ++ ")"
  | op =>
    l.column ++ " " ++ op.text ++ " " ++
      match l.literal? with
      | some literal => literal.text
      | none => "?"

end Leaf

end ColumnScan
