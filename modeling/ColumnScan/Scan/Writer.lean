import ColumnScan.Row
import ColumnScan.Storage.RowSink

/-!
# Writing rows

A writer passes the cells of rows on to a sink and counts those that were taken. What is written is
described by a schema, which is declared once.
-/

namespace ColumnScan

/-- Passes rows on to a sink. -/
structure RecordWriter where
  sink : RowSink
  schema : StructType
  /-- The converters of the rows made for the writer. -/
  factory : ConverterFactory := .stock
  /-- The number of rows that the sink took. -/
  written : Nat := 0

namespace RecordWriter

/-- A row of the writer's schema. -/
def createRow (w : RecordWriter) : Row := .ofSchema w.schema w.factory

/-- Passes a row on. -/
def write (w : RecordWriter) (row : Row) : Except Error Unit × RecordWriter :=
  match w.sink.write row.cells with
  | (.ok _, sink) => (.ok (), { w with sink := sink, written := w.written + 1 })
  | (.error e, sink) => (.error (.storage e), { w with sink := sink })

/-- Finishes the sink. -/
def close (w : RecordWriter) : Except Error Unit × RecordWriter :=
  (w.sink.close.1.mapError .storage, { w with sink := w.sink.close.2 })

end RecordWriter

/-- A schema for writing, whose types are all valid. -/
structure WritePlan where
  schema : StructType
  valid : schema.validate = .ok ()

/-- One setting of what is written. -/
inductive WriteSetting where
  | declaredSchema (schema : StructType)
  | declaredFields (fields : List Field)

/-- The settings made so far. -/
structure WriteDraft where
  schema : Option StructType := none
  /-- The first thing that was wrong. -/
  error : Option ConfigError := none

namespace WriteDraft

/-- Notes something wrong, unless something was wrong before. -/
def fail (d : WriteDraft) (e : ConfigError) : WriteDraft := { d with error := d.error.or (some e) }

/-- Declares the schema. -/
def declare (d : WriteDraft) (schema : StructType) : WriteDraft :=
  if d.schema.isSome then d.fail (.alreadySet .schema) else { d with schema := some schema }

/-- Makes one setting. -/
def set (d : WriteDraft) : WriteSetting → WriteDraft
  | .declaredSchema schema => d.declare schema
  | .declaredFields fields =>
    match StructType.ofFields fields with
    | .ok schema => d.declare schema
    | .error e => d.fail (.ofSchema e)

/-- The plan of the finished draft. -/
def build (d : WriteDraft) : Except ConfigError WritePlan :=
  match d.error, d.schema with
  | some e, _ => .error e
  | none, none => .error .missingSchema
  | none, some schema =>
    match h : schema.validate with
    | .ok () => .ok ⟨schema, h⟩
    | .error e => .error (.ofSchema e)

end WriteDraft

namespace WritePlan

/-- The plan that some settings make, one after the other. -/
def ofSettings (settings : List WriteSetting) : Except ConfigError WritePlan :=
  (settings.foldl WriteDraft.set {}).build

/-- A writer to a sink and an empty row for it. -/
def openOver (p : WritePlan) (sink : RowSink) : RecordWriter × Row :=
  let writer : RecordWriter := { sink := sink, schema := p.schema }
  (writer, writer.createRow)

end WritePlan

end ColumnScan
