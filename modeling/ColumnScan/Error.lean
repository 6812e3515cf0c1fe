import ColumnScan.Convert.Failure
import ColumnScan.Filter.Failure
import ColumnScan.Scan.Failure
import ColumnScan.Storage.Failure

/-!
# What can go wrong in a scan
-/

namespace ColumnScan

/-- What can go wrong when rows are read, written or filtered. -/
inductive Error where
  | schema (error : SchemaError)
  | convert (error : ConvertError)
  | evaluator (error : EvaluatorError)
  | predicate (error : PredicateError)
  | storage (error : StorageError)
  | config (error : ConfigError)

/-- The wording of what went wrong. -/
def Error.message : Error → String
  | .schema e => "schema error: " ++ e.message
  | .convert e => "conversion error: " ++ e.message
  | .evaluator e => "evaluator error: " ++ e.message
  | .predicate e => "predicate error: " ++ e.message
  | .storage e => "storage error: " ++ e.message
  | .config e => "configuration error: " ++ e.message

end ColumnScan
