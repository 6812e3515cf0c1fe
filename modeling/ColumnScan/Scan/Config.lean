import ColumnScan.Json.Reader
import ColumnScan.Json.Record
import ColumnScan.Scan.Projection
import ColumnScan.Schema.Codec

/-!
# The description of a scan

What a scan reads, as plain data that can be sent elsewhere as a JSON text. Members that a text
leaves out have a default, except the schema.
-/

namespace ColumnScan

/-- Where the schema of a scan comes from. -/
inductive SchemaChoice where
  | declared (schema : StructType)
  | fromSource
deriving DecidableEq

/-- The description of a scan. -/
structure ScanConfig where
  schema : SchemaChoice
  /-- The columns to read; all of them if nothing is said. -/
  columns : Option (List String) := none
  /-- The text of a search argument. -/
  searchArgument : Option String := none
  /-- Whether every row is judged by the search argument. -/
  rowLevelFilter : Bool := true
  mode : ProjectionMode := .lenient
  /-- Whether the rows are in envelopes. -/
  transactional : Bool := false
  /-- Whether rows get the identities they have in the source. -/
  prependRowId : Bool := false
deriving DecidableEq

/-! ## As text -/

/-- The choice of a schema as JSON. -/
def SchemaChoice.encode : SchemaChoice → Json
  | .declared schema => .choice "Declared" schema.encode
  | .fromSource => .ofString "FromSource"

/-- The choice of a schema that a JSON value stands for. -/
def SchemaChoice.decode (j : Json) : Option SchemaChoice :=
  if j.plainChoice? = some "FromSource" then some .fromSource
  else (j.choice? "Declared" >>= StructType.decode).map .declared

/-- The name of a mode in a text. -/
def ProjectionMode.name : ProjectionMode → String
  | .lenient => "Lenient"
  | .requireAll => "RequireAll"

/-- The mode with this name. -/
def ProjectionMode.ofName? (name : String) : Option ProjectionMode :=
  [lenient, requireAll].find? (·.name == name)

namespace ScanConfig

/-- The members of a description in their order. -/
def members : List String :=
  ["schema", "columns", "search_argument", "row_level_filter", "projection_mode", "transactional",
    "prepend_row_id"]

/-- A description as JSON. -/
def encode (c : ScanConfig) : Json :=
  .ofMembers [("schema", c.schema.encode),
    ("columns", .ofOption (fun names => .array (names.map Json.ofString)) c.columns),
    ("search_argument", .ofOption Json.ofString c.searchArgument),
    ("row_level_filter", .bool c.rowLevelFilter),
    ("projection_mode", .ofString c.mode.name),
    ("transactional", .bool c.transactional),
    ("prepend_row_id", .bool c.prependRowId)]

/-- A description as text. -/
def toJson (c : ScanConfig) : String := c.encode.print

/-- A member, or its default if it is missing. -/
def memberOr {α : Type} (default : α) (decode : Json → Option α) : Option Json → Option α
  | none => some default
  | some j => decode j

/-- The description that a JSON value stands for. -/
def decode (j : Json) : Option ScanConfig := do
  match ← Json.record? members j with
  | [some schema, columns, argument, filter, mode, transactional, prependRowId] =>
    let schema ← SchemaChoice.decode schema
    let columns ← memberOr none (Json.toOption? (Json.toList? Json.toText?)) columns
    let argument ← memberOr none (Json.toOption? Json.toText?) argument
    let filter ← memberOr true Json.toBool? filter
    let mode ← memberOr .lenient (fun j => j.plainChoice? >>= ProjectionMode.ofName?) mode
    let transactional ← memberOr false Json.toBool? transactional
    let prependRowId ← memberOr false Json.toBool? prependRowId
    return ⟨schema, columns, argument, filter, mode, transactional, prependRowId⟩
  | _ => none

/-- The description that a text stands for. -/
def ofJson (text : String) : Except ConfigError ScanConfig :=
  match Json.read text >>= decode with
  | some c => .ok c
  | none => .error .undecodable

end ScanConfig

end ColumnScan
