import ColumnScan.Predicate.SearchArgument
import ColumnScan.Storage.Envelope

/-!
# What can be wrong with the description of a scan
-/

namespace ColumnScan

/-- A setting that is made at most once. -/
inductive OnceSetting where
  | schema
  | columns
  | searchArgument
  | rowLevelFilter
deriving DecidableEq, Repr

/-- A setting as it is told. -/
def OnceSetting.text : OnceSetting → String
  | .schema => "schema"
  | .columns => "columns"
  | .searchArgument => "search argument"
  | .rowLevelFilter => "row level filter"

/-- What can be wrong with the description of a scan. -/
inductive ConfigError where
  /-- No schema was chosen. -/
  | missingSchema
  /-- A setting was made twice. -/
  | alreadySet (setting : OnceSetting)
  /-- A column is listed twice, case aside. -/
  | duplicateColumn (column : String)
  /-- A listed column is not in the schema. -/
  | unknownColumn (column : String)
  /-- The source lacks a column that has to be there. -/
  | missingColumn (column : String)
  /-- The source is not transactional. -/
  | notTransactional (fault : EnvelopeFault)
  /-- The schema has a bad name or a bad parameter. -/
  | schema (error : SchemaError)
  /-- The search argument is bad. -/
  | searchArgument (error : PredicateError)
  /-- The text does not describe a scan. -/
  | undecodable
deriving DecidableEq

namespace ConfigError

/-- A repeated name has an error of its own among those of a description. -/
def ofSchema : SchemaError → ConfigError
  | .duplicateColumn column => .duplicateColumn column
  | e => .schema e

/-- The wording of what is wrong. -/
def message : ConfigError → String
  | .missingSchema => "no schema source provided"
  | .alreadySet setting => setting.text ++ " was already specified"
  | .duplicateColumn column => "column '" ++ column ++ "' is listed more than once"
  | .unknownColumn column => "requested column '" ++ column ++ "' is not declared in the schema"
  | .missingColumn column => "column '" ++ column ++ "' is required but missing from the source"
  | .notTransactional fault => "not a transactional schema: " ++ fault.message
  | .schema e => "invalid schema: " ++ e.message
  | .searchArgument e => "invalid search argument: " ++ e.message
  | .undecodable => "configuration codec error"

end ConfigError

end ColumnScan
