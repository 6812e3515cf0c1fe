import ColumnScan.Columnar.PhysicalType
import ColumnScan.Decimal.Basic
import ColumnScan.Number.Power
import ColumnScan.Schema.Fault

/-!
# What storage refuses

A store may have no form for a type or a value, may be asked too late or after it was closed, or its
bytes may be gone or unreadable.
-/

namespace ColumnScan

open Columnar (PhysicalType)

/-- What a store has no form for. -/
inductive Unsupported where
  /-- A union has more variants than an array can tell apart. -/
  | variants (type : DataType)
  /-- No column has this type of array. -/
  | field (name : String) (type : PhysicalType)
  /-- Bounded text without a bound. -/
  | untoldLength (field kind : String)
  /-- Bounded text of an unknown kind. -/
  | textKind (field kind : String)
  /-- A struct without fields. -/
  | emptyStruct (column : String)
  /-- A variant of a union has more values than an array has places for. -/
  | variantValues (column : String)
  /-- An array of this type does not hold such a column. -/
  | array (array : PhysicalType) (type : DataType)
  /-- A decimal in an array has too many places. -/
  | scale (error : DecimalError)
  /-- An array of a union names a variant that the type does not have. -/
  | variant (id : Int)
  /-- A file has no form for unions. -/
  | unionColumn (name : String)
  /-- Columns were chosen after the first row had been read. -/
  | lateProjection

/-- The largest number of variants that an array of a union tells apart. -/
def maxArrayVariants : Nat := 128

/-- The largest number of values of one variant that an array of a union holds: their places are
numbered from zero on by 32 signed bits. -/
def maxVariantValues : Nat := twoPow 31

/-- The wording of what is not supported. -/
def Unsupported.message : Unsupported → String
  | .variants type => type.text ++ " has more than " ++ toString maxArrayVariants ++ " variants"
  | .field name type => "arrow type " ++ type.text ++ " of field '" ++ name ++ "'"
  | .untoldLength name kind => "field '" ++ name ++ "' is tagged " ++ kind ++ " without a valid length"
  | .textKind name kind => "field '" ++ name ++ "' has unknown text kind " ++ kind
  | .emptyStruct column => "column '" ++ column ++ "' is a struct without fields"
  | .variantValues column => "column '" ++ column ++ "' has too many union values"
  | .array a type => "arrow array of type " ++ a.text ++ " cannot hold " ++ type.text
  | .scale e => e.message
  | .variant id => "union type id " ++ toString id ++ " has no variant"
  | .unionColumn name => "parquet cannot store union column '" ++ name ++ "'"
  | .lateProjection => "projection must be set before the first row is read"

/-- Why a store did not do what it was asked. -/
inductive StorageError where
  /-- Values that fit their columns cannot be put together as arrays. -/
  | array
  /-- A file cannot be laid out or read. -/
  | file
  /-- There is no such file. -/
  | missingFile
  /-- The schema of a store is not one of this library. -/
  | schema (error : SchemaError)
  /-- The store has no form for it. -/
  | unsupported (what : Unsupported)
  /-- A value does not fit the column, or the part of a column, that it is written to. -/
  | invalidValue (column : String) (expected : DataType) (actual : String)
  /-- The sink is closed. -/
  | closed

/-- The wording of a refusal. -/
def StorageError.message : StorageError → String
  | .array => "arrow error"
  | .file => "parquet error"
  | .missingFile => "io error"
  | .schema e => "schema error: " ++ e.message
  | .unsupported what => "unsupported by storage: " ++ what.message
  | .invalidValue column expected actual =>
    "column '" ++ column ++ "' expects " ++ expected.text ++ ", found " ++ actual ++ " value"
  | .closed => "row sink is closed"

end ColumnScan
