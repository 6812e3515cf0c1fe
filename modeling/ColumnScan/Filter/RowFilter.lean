import ColumnScan.Filter.Evaluator
import ColumnScan.Predicate.Codec

/-!
# Row filters

A filter decides which rows of a scan are handed on. The filter of a search argument judges every
leaf on the row and accepts the row when the verdict of the whole is yes: a row that is unknown is
left out like one that is refused.
-/

namespace ColumnScan

/-- Decides which rows are handed on. -/
structure RowFilter where
  accept : Row → Except Error Bool × Row

/-- Hands on every row. -/
def RowFilter.acceptAll : RowFilter := ⟨fun r => (.ok true, r)⟩

/-- A search argument bound to the columns of a schema. -/
structure ArgumentFilter where
  argument : SearchArgument
  evaluators : List Evaluator

namespace ArgumentFilter

/-- Binds a search argument to a schema. -/
def make (argument : SearchArgument) (schema : StructType) :
    Except EvaluatorError ArgumentFilter :=
  (Evaluator.makeAll schema argument.leaves).map (⟨argument, ·⟩)

/-- Binds a search argument that is given as text. -/
def ofBlob (blob : String) (schema : StructType) : Except Error ArgumentFilter := do
  let argument ← (SearchArgument.ofBlob blob).mapError .predicate
  (make argument schema).mapError .evaluator

/-- The verdict on a row. -/
def evaluate (f : ArgumentFilter) (r : Row) : Except Error Truth × Row :=
  match Evaluator.evaluateRowAll r f.evaluators with
  | (.ok verdicts, r) => (.ok (f.argument.evaluate verdicts), r)
  | (.error failure, r) => (.error failure, r)

/-- Hands on the rows whose verdict is yes. -/
def toFilter (f : ArgumentFilter) : RowFilter where
  accept r :=
    match f.evaluate r with
    | (.ok verdict, r) => (.ok verdict.isYes, r)
    | (.error failure, r) => (.error failure, r)

end ArgumentFilter

end ColumnScan
