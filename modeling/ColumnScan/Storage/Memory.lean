import ColumnScan.Positions
import ColumnScan.Row.Cells
import ColumnScan.Schema.StructType
import ColumnScan.Storage.Failure

/-!
# Stores in memory

A source hands out the rows it was given, one by one, and a sink collects the rows that are written
to it. A row that is handed out has as many cells as the schema has fields, and null in the columns
that were not asked for.
-/

namespace ColumnScan

/-- What a source answers when it is asked for the next row. -/
inductive Fetched where
  /-- The next row. -/
  | row (cells : Cells)
  /-- There are no more rows; what was read before is left alone. -/
  | exhausted
  /-- The row cannot be read; the cells, if any, are what is left of it. -/
  | failed (error : StorageError) (cells : Option Cells)

/-- Rows in memory that are handed out from the first to the last. -/
structure MemorySource where
  schema : StructType
  rows : List (Cells × Option RecordId)
  projection : Option (List Nat) := none
  /-- The identity of the row handed out last. -/
  current : Option RecordId := none
  isTransactional : Bool := false

namespace MemorySource

/-- A source of rows without identities. -/
def ofRows (schema : StructType) (rows : List Cells) : MemorySource where
  schema := schema
  rows := rows.map (·, none)

/-- A source of rows with identities. -/
def transactional (schema : StructType) (rows : List (Cells × RecordId)) : MemorySource where
  schema := schema
  rows := rows.map fun (cells, id) => (cells, some id)
  isTransactional := true

/-- The source that hands out some columns only. -/
def project (s : MemorySource) (ordinals : List Nat) : MemorySource :=
  { s with projection := some ordinals }

/-- The next row. -/
def next (s : MemorySource) : Fetched × MemorySource :=
  match s.rows with
  | [] => (.exhausted, { s with current := none })
  | (cells, id) :: rest =>
    (.row (.project (isWanted s.projection) s.schema.size cells.values),
      { s with rows := rest, current := id })

end MemorySource

/-- Rows that were written to memory. -/
structure MemorySink where
  schema : StructType
  rows : List Cells := []
  isClosed : Bool := false

namespace MemorySink

/-- Adds a row; a short one is filled with nulls. -/
def write (s : MemorySink) (cells : Cells) : Except StorageError MemorySink :=
  if s.isClosed then .error .closed
  else .ok { s with rows := s.rows ++ [cells.padTo s.schema.size] }

/-- Closes the sink. -/
def close (s : MemorySink) : MemorySink := { s with isClosed := true }

/-- The source of the rows written. -/
def toSource (s : MemorySink) : MemorySource := .ofRows s.schema s.rows

end MemorySink

end ColumnScan
