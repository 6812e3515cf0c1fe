import ColumnScan.Columnar.Array
import ColumnScan.Columnar.Layout
import ColumnScan.Row.Cells

/-!
# Batches

A batch holds rows column by column. Rows are put in under a schema, short rows being filled with
nulls and long ones cut, and read out under a schema that need not be the same: the columns of the
batch are matched with positions of that schema. Batches with the same columns can be joined, and a
batch can be cut into smaller ones.
-/

namespace ColumnScan.Columnar

/-- An array: its type and what it holds, place by place. -/
structure Column where
  type : PhysicalType
  entries : List Datum

namespace Column

/-- The number of places. -/
def size (c : Column) : Nat := c.entries.length

/-- The value at a place of a column of a type. -/
def valueAt (type : DataType) (c : Column) (index : Nat) : Except StorageError Stored :=
  decode type c.type (c.entries[index]?.getD .null)

/-- The values of a column of a type. -/
def values (type : DataType) (c : Column) : List (Except StorageError Stored) :=
  c.entries.map (decode type c.type)

end Column

/-- Some rows, column by column. -/
structure Batch where
  size : Nat
  columns : List Column

namespace Batch

/-! ## Joining and cutting -/

/-- What the column at a position holds, nothing if there is no such column. -/
def entriesAt (b : Batch) (ordinal : Nat) : List Datum :=
  ((b.columns[ordinal]?).map (·.entries)).getD []

/-- The number of rows of some batches. -/
def totalSize : List Batch → Nat
  | [] => 0
  | b :: rest => b.size + totalSize rest

/-- The rows of some batches, one batch after the other, whose columns have these types. -/
def join (types : List PhysicalType) (batches : List Batch) : Batch where
  size := totalSize batches
  columns := types.zipIdx.map fun (type, ordinal) => ⟨type, batches.flatMap (entriesAt · ordinal)⟩

/-- The columns at some positions. -/
def select (b : Batch) (ordinals : List Nat) : Batch :=
  { b with columns := ordinals.filterMap (b.columns[·]?) }

/-- So many rows from a place on. -/
def slice (b : Batch) (start size : Nat) : Batch where
  size := size
  columns := b.columns.map fun c => { c with entries := (c.entries.drop start).take size }

/-- The rows in batches of a size, the last of which may be smaller. -/
def cut (b : Batch) (size : Nat) : List Batch :=
  (List.range ((b.size + size - 1) / size)).map fun k => b.slice (k * size) (min size (b.size - k * size))

/-! ## Putting rows in and reading them out -/

/-- Checks the columns of rows in order, from the position `ordinal` on. -/
def checkColumns (rows : List Cells) (ordinal : Nat) : List Field → Except StorageError Unit
  | [] => .ok ()
  | field :: rest => do
    check field.name (rows.map (·.getD ordinal)) field.type
    checkColumns rows (ordinal + 1) rest

/-- The columns of rows, from the position `ordinal` on. -/
def columnsOf (rows : List Cells) (ordinal : Nat) : List Field → List PhysicalField → List Column
  | field :: fields, slot :: slots =>
    let data := ArrayData.ofValues field.type (rows.map (·.getD ordinal))
    ⟨slot.type, data.entries rows.length⟩ :: columnsOf rows (ordinal + 1) fields slots
  | _, _ => []

/-- The batch of some rows. -/
def ofRows (schema : StructType) (rows : List Cells) : Except StorageError Batch := do
  let slots ← layoutSchema schema
  checkColumns rows 0 schema.fields
  return ⟨rows.length, columnsOf rows 0 schema.fields slots⟩

/-- Reads one place of columns into the cells at their positions; a position beyond the schema is
passed over, and a column that cannot be read leaves the cells written before it. -/
def readColumns (schema : StructType) (index : Nat) :
    List (Column × Nat) → Cells → Except StorageError Unit × Cells
  | [], cells => (.ok (), cells)
  | (column, ordinal) :: rest, cells =>
    match schema.field? ordinal with
    | none => readColumns schema index rest cells
    | some field =>
      match column.valueAt field.type index with
      | .ok value => readColumns schema index rest (cells.put ordinal value)
      | .error e => (.error e, cells)

/-- Reads one row; each column belongs to the position at its place in `ordinals`. -/
def readRow (schema : StructType) (b : Batch) (ordinals : List Nat) (index : Nat) :
    Except StorageError Unit × Cells :=
  readColumns schema index (b.columns.zip ordinals) (.nulls schema.size)

/-- Reads every row; the columns follow the schema one to one. -/
def rows (schema : StructType) (b : Batch) : Except StorageError (List Cells) :=
  (List.range b.size).mapM fun index =>
    match b.readRow schema (List.range schema.size) index with
    | (.ok _, cells) => .ok cells
    | (.error e, _) => .error e

end Batch

end ColumnScan.Columnar
