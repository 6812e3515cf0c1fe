import ColumnScan.Text.Quoted

/-!
# Types of arrays

The types under which a column is laid out as an array, with the fields of nested ones. Not all of
them can hold a column of this library; those that cannot are here to be named in a refusal.
-/

namespace ColumnScan.Columnar

/-- The unit of a time. -/
inductive TimeUnit where
  | second
  | millisecond
  | microsecond
  | nanosecond
deriving DecidableEq, Repr

/-- A unit as it is written. -/
def TimeUnit.text : TimeUnit → String
  | .second => "Second"
  | .millisecond => "Millisecond"
  | .microsecond => "Microsecond"
  | .nanosecond => "Nanosecond"

/-- The unit of an interval of the calendar. -/
inductive IntervalUnit where
  | yearMonth
  | dayTime
  | monthDayNano
deriving DecidableEq, Repr

/-- A unit as it is written. -/
def IntervalUnit.text : IntervalUnit → String
  | .yearMonth => "YearMonth"
  | .dayTime => "DayTime"
  | .monthDayNano => "MonthDayNano"

/-- How the values of a union are laid out. -/
inductive UnionMode where
  | sparse
  | dense
deriving DecidableEq, Repr

/-- A layout as it is written. -/
def UnionMode.text : UnionMode → String
  | .sparse => "Sparse"
  | .dense => "Dense"

/-- A named array: whether it may hold nulls, and what else is noted about it. -/
structure Slot (τ : Type) where
  name : String
  type : τ
  nullable : Bool := true
  metadata : List (String × String) := []

/-- The type of an array. -/
inductive PhysicalType where
  | null
  | boolean
  | int8
  | int16
  | int32
  | int64
  | uint8
  | uint16
  | uint32
  | uint64
  | float16
  | float32
  | float64
  | date32
  | date64
  | time32 (unit : TimeUnit)
  | time64 (unit : TimeUnit)
  | duration (unit : TimeUnit)
  | interval (unit : IntervalUnit)
  | timestamp (unit : TimeUnit) (zone : Option String)
  | utf8
  | largeUtf8
  | utf8View
  | binary
  | largeBinary
  | binaryView
  | fixedSizeBinary (width : Int)
  | decimal128 (precision : UInt8) (scale : Int8)
  | decimal256 (precision : UInt8) (scale : Int8)
  | struct (fields : List (Slot PhysicalType))
  | list (item : Slot PhysicalType)
  | largeList (item : Slot PhysicalType)
  | fixedSizeList (item : Slot PhysicalType) (size : Int)
  | map (entries : Slot PhysicalType) (sorted : Bool)
  | union (mode : UnionMode) (variants : List (Int8 × Slot PhysicalType))
deriving Inhabited

/-- A named array of a schema. -/
abbrev PhysicalField := Slot PhysicalType

namespace PhysicalType

/-- A named array as it is written inside a nested type. -/
def slotText (name type : String) (nullable : Bool) : String :=
  "Field \x7b name: " ++ Text.quote name ++ ", data_type: " ++ type ++
    ", nullable: " ++ (if nullable then "true" else "false") ++ " \x7d"

mutual

/-- A type as it is written. -/
def text : PhysicalType → String
  | .null => "Null"
  | .boolean => "Boolean"
  | .int8 => "Int8"
  | .int16 => "Int16"
  | .int32 => "Int32"
  | .int64 => "Int64"
  | .uint8 => "UInt8"
  | .uint16 => "UInt16"
  | .uint32 => "UInt32"
  | .uint64 => "UInt64"
  | .float16 => "Float16"
  | .float32 => "Float32"
  | .float64 => "Float64"
  | .date32 => "Date32"
  | .date64 => "Date64"
  | .time32 unit => "Time32(" ++ unit.text ++ ")"
  | .time64 unit => "Time64(" ++ unit.text ++ ")"
  | .duration unit => "Duration(" ++ unit.text ++ ")"
  | .interval unit => "Interval(" ++ unit.text ++ ")"
  | .timestamp unit none => "Timestamp(" ++ unit.text ++ ", None)"
  | .timestamp unit (some zone) =>
    "Timestamp(" ++ unit.text ++ ", Some(" ++ Text.quote zone ++ "))"
  | .utf8 => "Utf8"
  | .largeUtf8 => "LargeUtf8"
  | .utf8View => "Utf8View"
  | .binary => "Binary"
  | .largeBinary => "LargeBinary"
  | .binaryView => "BinaryView"
  | .fixedSizeBinary width => "FixedSizeBinary(" ++ toString width ++ ")"
  | .decimal128 p s => "Decimal128(" ++ toString p.toNat ++ ", " ++ toString s.toInt ++ ")"
  | .decimal256 p s => "Decimal256(" ++ toString p.toNat ++ ", " ++ toString s.toInt ++ ")"
  | .struct fields => "Struct([" ++ ", ".intercalate (textFields fields) ++ "])"
  | .list ⟨name, type, nullable, _⟩ => "List(" ++ slotText name type.text nullable ++ ")"
  | .largeList ⟨name, type, nullable, _⟩ => "LargeList(" ++ slotText name type.text nullable ++ ")"
  | .fixedSizeList ⟨name, type, nullable, _⟩ size =>
    "FixedSizeList(" ++ slotText name type.text nullable ++ ", " ++ toString size ++ ")"
  | .map ⟨name, type, nullable, _⟩ sorted =>
    "Map(" ++ slotText name type.text nullable ++ ", " ++ (if sorted then "true" else "false") ++ ")"
  | .union mode variants =>
    "Union([" ++ ", ".intercalate (textVariants variants) ++ "], " ++ mode.text ++ ")"

/-- The fields of a struct as they are written. -/
def textFields : List (Slot PhysicalType) → List String
  | [] => []
  | ⟨name, type, nullable, _⟩ :: rest => slotText name type.text nullable :: textFields rest

/-- The variants of a union as they are written. -/
def textVariants : List (Int8 × Slot PhysicalType) → List String
  | [] => []
  | (id, ⟨name, type, nullable, _⟩) :: rest =>
    ("(" ++ toString id.toInt ++ ", " ++ slotText name type.text nullable ++ ")") ::
      textVariants rest

end

end PhysicalType

end ColumnScan.Columnar
