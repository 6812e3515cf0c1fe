import ColumnScan.Scan.Config
import ColumnScan.Scan.Reader

/-!
# Scan plans

A plan is a description of a scan that holds together by itself: the declared schema is valid, the
columns are in it, and the search argument can be read. Opening a plan over a source settles the
rest: the schema of the scan, the columns to read (those asked for and those the search argument
looks at), and the filter.
-/

namespace ColumnScan

/-- The schema of some columns, in the order in which they are listed. -/
def selectColumns (schema : StructType) (columns : List String) :
    Except ConfigError StructType := do
  let fields ← columns.mapM fun column =>
    match schema.lookup? column with
    | some (_, field) => .ok field
    | none => .error (.unknownColumn column)
  (StructType.ofFields fields).mapError ConfigError.ofSchema

namespace ScanConfig

/-- Checks what can be checked without a source. -/
def check (c : ScanConfig) : Except ConfigError Unit := do
  if let .declared schema := c.schema then
    schema.validate.mapError ConfigError.ofSchema
    if let some columns := c.columns then
      let _ ← selectColumns schema columns
  if let some blob := c.searchArgument then
    let _ ← (SearchArgument.ofBlob blob).mapError .searchArgument

end ScanConfig

/-- A description of a scan that holds together by itself. -/
structure ScanPlan where
  config : ScanConfig
  checked : config.check = .ok ()

namespace ScanPlan

/-- The plan of a description. -/
def ofConfig (c : ScanConfig) : Except ConfigError ScanPlan :=
  match h : c.check with
  | .ok () => .ok ⟨c, h⟩
  | .error e => .error e

/-- The source as the scan sees it: out of its envelopes if the scan is transactional. -/
def unwrap (p : ScanPlan) (source : RowSource) : Except Error RowSource :=
  if p.config.transactional then
    source.ofEnvelopes.mapError fun fault => .config (.notTransactional fault)
  else .ok source

/-- The schema of the scan over a source with a schema of its own. -/
def resolve (p : ScanPlan) (actual : StructType) : StructType :=
  match p.config.schema with
  | .declared schema => schema
  | .fromSource => actual

/-- The columns asked for. -/
def requested (p : ScanPlan) (resolved : StructType) : Except Error StructType :=
  match p.config.columns with
  | some columns => (selectColumns resolved columns).mapError .config
  | none => .ok resolved

/-- The search argument by which rows are judged. -/
def argument? (p : ScanPlan) : Except Error (Option SearchArgument) :=
  match p.config.searchArgument, p.config.rowLevelFilter with
  | some blob, true => ((SearchArgument.ofBlob blob).map some).mapError .predicate
  | _, _ => .ok none

/-- The columns to read once a leaf looks at its column: one more unless it is there already, case of
ASCII letters aside. -/
def withLeaf (resolved : StructType) (fields : List Field) (leaf : Leaf) : List Field :=
  if fields.any fun field => Text.equalIgnoringAsciiCase field.name leaf.column then fields
  else
    match resolved.lookup? leaf.column with
    | some (_, field) => fields ++ [field]
    | none => fields

/-- The columns to read: those asked for and those that the leaves look at. -/
def readFields (resolved requested : StructType) (argument? : Option SearchArgument) : List Field :=
  match argument? with
  | some argument => argument.leaves.foldl (withLeaf resolved) requested.fields
  | none => requested.fields

/-- The filter of the scan. -/
def filter (resolved : StructType) (argument? : Option SearchArgument) : Except Error RowFilter :=
  match argument? with
  | some argument =>
    ((ArgumentFilter.make argument resolved).map (·.toFilter)).mapError .evaluator
  | none => .ok .acceptAll

/-- Opens the plan over a source. -/
def openOver (p : ScanPlan) (source : RowSource) : Except Error RecordReader := do
  let source ← p.unwrap source
  let actual := source.schema
  let resolved := p.resolve actual
  let requested ← p.requested resolved
  let argument? ← p.argument?
  -- Leaves are bound by the schema of the scan, cells are found by that of the source.
  let read ← (StructType.ofFields (readFields resolved requested argument?)).mapError .schema
  let projection ← ColumnProjection.ofRequest read actual p.config.mode
  let source ← (source.project projection.ordinals).mapError .storage
  let filter ← filter resolved argument?
  return { RecordReader.ofSource source with filter := filter, attachIds := p.config.prependRowId }

end ScanPlan

end ColumnScan
