import ColumnScan.Scan.Plan

/-!
# Drafting a scan

A scan is described setting by setting. The schema, the columns, the search argument and whether
rows are judged by it are set at most once; the other settings may be made again. The first setting
that is wrong is reported when the draft is finished, and only then whether a schema is missing.
-/

namespace ColumnScan

/-- One setting of a scan. -/
inductive ScanSetting where
  | declaredSchema (schema : StructType)
  | declaredFields (fields : List Field)
  | schemaFromSource
  | columns (names : List String)
  | searchArgument (argument : SearchArgument)
  | rowLevelFilter (enabled : Bool)
  | projectionMode (mode : ProjectionMode)
  | transactional (prependRowId : Bool)

/-- The settings made so far. -/
structure ScanDraft where
  schema : Option SchemaChoice := none
  columns : Option (List String) := none
  searchArgument : Option String := none
  rowLevelFilter : Option Bool := none
  mode : ProjectionMode := .lenient
  transactional : Bool := false
  prependRowId : Bool := false
  /-- The first thing that was wrong. -/
  error : Option ConfigError := none

/-- The first name that an earlier one has already, case aside. -/
def firstRepeated? (seen : List String) : List String → Option String
  | [] => none
  | name :: rest =>
    if seen.contains (Text.lowercase name) then some name
    else firstRepeated? (Text.lowercase name :: seen) rest

namespace ScanDraft

/-- Notes something wrong, unless something was wrong before. -/
def fail (d : ScanDraft) (e : ConfigError) : ScanDraft := { d with error := d.error.or (some e) }

/-- Chooses the schema. -/
def chooseSchema (d : ScanDraft) (choice : SchemaChoice) : ScanDraft :=
  if d.schema.isSome then d.fail (.alreadySet .schema) else { d with schema := some choice }

/-- Chooses the columns. -/
def chooseColumns (d : ScanDraft) (names : List String) : ScanDraft :=
  if d.columns.isSome then d.fail (.alreadySet .columns)
  else
    let chosen := { d with columns := some names }
    match firstRepeated? [] names with
    | some name => chosen.fail (.duplicateColumn name)
    | none => chosen

/-- Makes one setting. -/
def set (d : ScanDraft) : ScanSetting → ScanDraft
  | .declaredSchema schema => d.chooseSchema (.declared schema)
  | .declaredFields fields =>
    match StructType.ofFields fields with
    | .ok schema => d.chooseSchema (.declared schema)
    | .error e => d.fail (.ofSchema e)
  | .schemaFromSource => d.chooseSchema .fromSource
  | .columns names => d.chooseColumns names
  | .searchArgument argument =>
    if d.searchArgument.isSome then d.fail (.alreadySet .searchArgument)
    else { d with searchArgument := some argument.toBlob }
  | .rowLevelFilter enabled =>
    if d.rowLevelFilter.isSome then d.fail (.alreadySet .rowLevelFilter)
    else { d with rowLevelFilter := some enabled }
  | .projectionMode mode => { d with mode := mode }
  | .transactional prependRowId => { d with transactional := true, prependRowId := prependRowId }

/-- The plan of the finished draft. -/
def build (d : ScanDraft) : Except ConfigError ScanPlan :=
  match d.error, d.schema with
  | some e, _ => .error e
  | none, none => .error .missingSchema
  | none, some schema =>
    ScanPlan.ofConfig {
      schema := schema
      columns := d.columns
      searchArgument := d.searchArgument
      rowLevelFilter := d.rowLevelFilter.getD true
      mode := d.mode
      transactional := d.transactional
      prependRowId := d.prependRowId }

end ScanDraft

/-- The plan that some settings make, one after the other. -/
def ScanPlan.ofSettings (settings : List ScanSetting) : Except ConfigError ScanPlan :=
  (settings.foldl ScanDraft.set {}).build

end ColumnScan
