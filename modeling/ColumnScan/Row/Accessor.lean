import ColumnScan.Convert.Factory
import ColumnScan.Row.Cells
import ColumnScan.Schema.StructType

/-!
# Reaching a cell by name

An accessor is what a name means for the rows of a schema: a position with the converter of its
column, or nothing. A name that means nothing reads as null and ignores what is written to it, and
so does a name whose cell a short row lacks, until it is written.
-/

namespace ColumnScan

/-- What a name means for the rows of a schema. -/
inductive Accessor where
  | present (ordinal : Nat) (name : String) (converter : Converter)
  | absent

namespace Accessor

/-- What a lower-case name means. -/
def find (schema : StructType) (factory : ConverterFactory) (key : String) :
    Except SchemaError Accessor :=
  match schema.lookupKey? key with
  | none => .ok .absent
  | some (ordinal, field) => (factory.build field.type).map (.present ordinal field.name)

/-- The number of types for which a converter is asked to find that out. -/
def steps (schema : StructType) (factory : ConverterFactory) (key : String) : Nat :=
  match schema.lookupKey? key with
  | none => 0
  | some (_, field) => factory.steps field.type

/-- The cell as it is stored. -/
def stored? (cells : Cells) : Accessor → Option Stored
  | .present ordinal _ _ => cells.get? ordinal
  | .absent => none

/-- The cell on the application's side; a failure tells the declared name. -/
def get (cells : Cells) : Accessor → Except ConvertError Native
  | .present ordinal name converter =>
    match cells.get? ordinal with
    | some value => (converter.toNative value).mapError (.field name)
    | none => .ok .null
  | .absent => .ok .null

/-- The cells after a value was written; a failure tells the declared name. -/
def set (cells : Cells) (value : Native) : Accessor → Except ConvertError Cells
  | .present ordinal name converter =>
    ((converter.toStored value).mapError (.field name)).map (cells.put ordinal)
  | .absent => .ok cells

end Accessor

end ColumnScan
