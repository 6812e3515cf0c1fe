import ColumnScan.Error
import ColumnScan.Positions
import ColumnScan.Schema.StructType

/-!
# Which columns a scan reads

The columns that are asked for are looked up, by name and case aside, in the schema of the source.
A column of another type is refused; one that the source lacks is refused or reads as null, as the
mode says. Columns are read in the order of the source, each once.
-/

namespace ColumnScan

/-- What becomes of columns that the source lacks. -/
inductive ProjectionMode where
  /-- They read as null. -/
  | lenient
  /-- They are refused. -/
  | requireAll
deriving DecidableEq, Repr

/-- The columns of a source that are read. -/
structure ColumnProjection where
  /-- The positions that are read, ascending. -/
  ordinals : List Nat
  /-- The names at these positions. -/
  names : List String
  /-- The columns asked for that the source lacks. -/
  missing : List String
deriving DecidableEq, Repr

/-- What was found of the columns asked for: positions and missing names, in the order in which they
were asked for. -/
structure Located where
  ordinals : List Nat := []
  missing : List String := []

namespace ColumnProjection

/-- Looks one column up in the schema of a source. -/
def locate (actual : StructType) (mode : ProjectionMode) (found : Located) (field : Field) :
    Except Error Located :=
  match actual.lookup? field.name with
  | some (ordinal, other) =>
    if other.type = field.type then .ok { found with ordinals := found.ordinals ++ [ordinal] }
    else .error (.schema (.mismatch field.name field.type other.type))
  | none =>
    match mode with
    | .requireAll => .error (.config (.missingColumn field.name))
    | .lenient => .ok { found with missing := found.missing ++ [field.name] }

/-- The columns that are read for those asked for. -/
def ofRequest (requested actual : StructType) (mode : ProjectionMode) :
    Except Error ColumnProjection := do
  let found ← requested.fields.foldlM (locate actual mode) {}
  let ordinals := ascending found.ordinals
  return ⟨ordinals, ordinals.filterMap fun i => (actual.field? i).map (·.name), found.missing⟩

end ColumnProjection

end ColumnScan
