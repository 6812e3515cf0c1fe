import ColumnScan.Filter.RowFilter
import ColumnScan.Storage.RowSource

/-!
# Reading rows

A reader hands on the rows of a source that its filter accepts, each in a row that the caller
provides, and counts those it hands on and those it leaves out. Once the source is exhausted it is
not asked again.
-/

namespace ColumnScan

/-- Hands on the rows of a source that a filter accepts. -/
structure RecordReader where
  source : RowSource
  /-- The schema of the rows handed on. -/
  schema : StructType
  /-- The converters of the rows made for the reader. -/
  factory : ConverterFactory := .stock
  filter : RowFilter := .acceptAll
  /-- Whether rows get the identities they have in a transactional source. -/
  attachIds : Bool := true
  isDone : Bool := false
  /-- The number of rows handed on. -/
  read : Nat := 0
  /-- The number of rows left out. -/
  skipped : Nat := 0

namespace RecordReader

/-- A reader of all rows of a source. -/
def ofSource (source : RowSource) : RecordReader where
  source := source
  schema := source.schema

/-- A row of the reader's schema. -/
def createRow (r : RecordReader) : Row := .ofSchema r.schema r.factory

/-- The identity that the row handed out last gets. -/
def rowId (r : RecordReader) : Option RecordId :=
  if r.attachIds && r.source.isTransactional then r.source.recordId else none

/-- Puts the next row that the filter accepts into `row`; the answer is no once there is none. -/
def next (r : RecordReader) (row : Row) : Except Error Bool × RecordReader × Row :=
  if r.isDone then (.ok false, r, row)
  else
    match _fetched : r.source.next with
    | (.exhausted, source) => (.ok false, { r with source := source, isDone := true }, row)
    | (.failed e cells, source) =>
      (.error (.storage e), { r with source := source }, row.withCells (cells.getD row.cells))
    | (.row cells, source) =>
      match r.filter.accept (row.withCells cells) with
      | (.error e, row) => (.error e, { r with source := source }, row)
      | (.ok false, row) => next { r with source := source, skipped := r.skipped + 1 } row
      | (.ok true, row) =>
        let r := { r with source := source, read := r.read + 1 }
        (.ok true, r, row.withId r.rowId)
termination_by r.source.remaining
decreasing_by
  have := RowSource.remaining_next _fetched
  omega

end RecordReader

end ColumnScan
