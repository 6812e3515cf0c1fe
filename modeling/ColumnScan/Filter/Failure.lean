import ColumnScan.Predicate.Leaf
import ColumnScan.Schema.Fault

/-!
# Why a leaf cannot be bound to a column
-/

namespace ColumnScan

/-- How many literals a leaf needs. -/
inductive Arity where
  | exactly (count : Nat)
  | atLeast (count : Nat)
deriving DecidableEq, Repr

namespace Arity

/-- A number of literals as it is told. -/
def text : Arity → String
  | .exactly n => "exactly " ++ toString n
  | .atLeast n => "at least " ++ toString n

/-- Whether a number of literals will do. -/
def admits : Arity → Nat → Bool
  | .exactly n, count => count == n
  | .atLeast n, count => decide (n ≤ count)

end Arity

/-- Why a leaf cannot be bound to a column. -/
inductive EvaluatorError where
  /-- There is no such column. -/
  | unknownColumn (column : String)
  /-- Columns of this type are not compared. -/
  | unsupportedType (column : String) (type : DataType)
  /-- The literal is no value of the column's type. -/
  | invalidLiteral (column : String) (type : DataType) (literal : Literal)
  /-- The operator takes another number of literals. -/
  | arity (operator : Operator) (column : String) (expected : Arity) (actual : Nat)
  /-- The column's type has a bad parameter. -/
  | schema (error : SchemaError)
deriving DecidableEq

/-- The wording of the reason. -/
def EvaluatorError.message : EvaluatorError → String
  | .unknownColumn column => "predicate references unknown column '" ++ column ++ "'"
  | .unsupportedType column type =>
    "cannot evaluate predicates over column '" ++ column ++ "' of type " ++ type.text
  | .invalidLiteral column type literal =>
    "literal " ++ literal.text ++ " cannot be compared with column '" ++ column ++ "' of type " ++
      type.text
  | .arity operator column expected actual =>
    operator.text ++ " on column '" ++ column ++ "' expects " ++ expected.text ++ " literals, got " ++
      toString actual
  | .schema e => "schema error: " ++ e.message

end ColumnScan
