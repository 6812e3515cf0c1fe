import ColumnScan.Row.Cells
import ColumnScan.Schema.StructType
import ColumnScan.Text.CaseMap

/-!
# The envelope of a transactional store

A transactional store keeps every row of the user as one column of an envelope, beside the columns
that identify it. `rowStruct` recognises an envelope by its columns, names compared without regard
to the case of ASCII letters, and gives the schema of the rows inside; `envelope` is the other
direction. Main statement: `rowStruct_envelope`, what is put in an envelope is found in it.
-/

namespace ColumnScan

/-- How a schema differs from an envelope. -/
inductive EnvelopeFault where
  | size (expected actual : Nat)
  | name (expected actual : String)
  | type (column : String) (expected : Kind) (actual : DataType)
  | rowType
deriving DecidableEq

/-- The wording of a difference. -/
def EnvelopeFault.message : EnvelopeFault → String
  | .size expected actual =>
    "expected " ++ toString expected ++ " columns, found " ++ toString actual
  | .name expected actual => "expected column '" ++ expected ++ "', found '" ++ actual ++ "'"
  | .type column expected actual =>
    "column '" ++ column ++ "' must be " ++ expected.text ++ ", found " ++ actual.text
  | .rowType => "column 'row' must be a struct"

namespace Envelope

/-- The columns beside the row, with the kinds they have to have. -/
def systemColumns : List (String × Kind) :=
  [("operation", .int), ("originalTransaction", .long), ("bucket", .int), ("rowId", .long),
    ("currentTransaction", .long)]

/-- The name of the column that holds the row. -/
def rowColumn : String := "row"

/-- The number of columns. -/
def size : Nat := systemColumns.length + 1

/-- The position of the transaction that wrote the row. -/
def writeIdOrdinal : Nat := 1

/-- The position of the row's bucket. -/
def bucketOrdinal : Nat := 2

/-- The position of the row's number. -/
def rowIdOrdinal : Nat := 3

/-- The position of the row. -/
def rowOrdinal : Nat := 5

/-- The positions that are read of an envelope. -/
def ordinals : List Nat := [writeIdOrdinal, bucketOrdinal, rowIdOrdinal, rowOrdinal]

/-- Checks the name of a column. -/
def checkName (expected : String) (field : Field) : Except EnvelopeFault Unit :=
  if Text.equalIgnoringAsciiCase field.name expected then .ok ()
  else .error (.name expected field.name)

/-- Checks columns in order and gives the fields of the struct in the last one. -/
def checkColumns : List Field → List (String × Kind) → Except EnvelopeFault StructType
  | field :: fields, (name, kind) :: columns => do
    checkName name field
    if field.type ≠ .primitive kind then .error (.type name kind field.type)
    checkColumns fields columns
  | field :: _, [] => do
    checkName rowColumn field
    match field.type with
    | .struct fields => (StructType.ofFields fields).mapError fun _ => .rowType
    | _ => .error .rowType
  | [], _ => .error .rowType

/-- The schema of the rows in an envelope. -/
def rowStruct (schema : StructType) : Except EnvelopeFault StructType :=
  if schema.size ≠ size then .error (.size size schema.size)
  else checkColumns schema.fields systemColumns

/-- The columns of an envelope of rows with a schema. -/
def columnsOf (row : StructType) : List Field :=
  systemColumns.map (fun (name, kind) => ⟨name, .primitive kind⟩) ++ [⟨rowColumn, row.type⟩]

/-- The names of the columns do not depend on the rows. -/
theorem properNames_columnsOf (row : StructType) : StructType.ProperNames (columnsOf row) := by
  have hempty : StructType.ProperNames (columnsOf ⟨[], by decide⟩) := by decide +kernel
  exact hempty.of_names rfl

/-- The envelope of rows with a schema. -/
def envelope (row : StructType) : StructType := ⟨columnsOf row, properNames_columnsOf row⟩

theorem checkName_self (field : Field) : checkName field.name field = .ok () :=
  if_pos (Text.equalIgnoringAsciiCase_self field.name)

theorem rowStruct_envelope (row : StructType) : rowStruct (envelope row) = .ok row := by
  have h (name : String) (type : DataType) : checkName name ⟨name, type⟩ = .ok () :=
    checkName_self ⟨name, type⟩
  have hrow : (StructType.ofFields row.fields).mapError (fun _ => EnvelopeFault.rowType) =
      .ok row := by
    rw [StructType.ofFields_fields]
    rfl
  simp [rowStruct, envelope, columnsOf, systemColumns, StructType.size, size, checkColumns, h, bind,
    Except.bind, StructType.type, hrow]

/-- The identity of the row in an envelope, if all parts of it are there. -/
def idOf (cells : Cells) : Option RecordId :=
  match cells.get? writeIdOrdinal, cells.get? bucketOrdinal, cells.get? rowIdOrdinal with
  | some (.scalar (.long writeId)), some (.scalar (.int bucket)), some (.scalar (.long rowId)) =>
    some ⟨writeId, bucket, rowId⟩
  | _, _, _ => none

end Envelope

end ColumnScan
