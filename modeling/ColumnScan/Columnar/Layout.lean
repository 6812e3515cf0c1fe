import ColumnScan.Number.Digits
import ColumnScan.Schema.StructType
import ColumnScan.Storage.Failure

/-!
# The arrays of a type

Every type has one array that a column of it is laid out as; bounded text is an array of text whose
kind and bound are noted beside it. The other way round, an array is read as the type whose columns
it holds, also where it is laid out more widely than this library does. The variants of a union are
numbered by eight signed bits, so no more than 128 can be told apart; of exactly 128 the number
after the last one is negative, the range of numbers is empty, and no variant is left.
-/

namespace ColumnScan.Columnar

/-- The note that tells the kind of bounded text. -/
def textKindNote : String := "rowbridge.type"

/-- The note that tells the bound of bounded text. -/
def textLengthNote : String := "rowbridge.max_length"

/-- The notes of bounded text. -/
def textNotes (kind : String) (limit : UInt32) : List (String × String) :=
  [(textKindNote, kind), (textLengthNote, toString limit.toNat)]

/-- The notes beside the array of a type. -/
def notes : DataType → List (String × String)
  | .primitive (.char limit) => textNotes "char" limit
  | .primitive (.varchar limit) => textNotes "varchar" limit
  | _ => []

/-- The array of a scalar kind. -/
def layoutKind : Kind → PhysicalType
  | .string | .char _ | .varchar _ => .utf8
  | .boolean => .boolean
  | .byte => .int8
  | .short => .int16
  | .int => .int32
  | .long => .int64
  | .float => .float32
  | .double => .float64
  | .binary => .binary
  | .date => .date32
  | .timestamp => .timestamp .nanosecond none
  | .decimal precision scale => .decimal128 precision scale.toInt8

/-- Numbers variants from zero on, unless the number after the last one has no eight signed bits. -/
def numbered (slots : List PhysicalField) : List (Int8 × PhysicalField) :=
  if slots.length < maxArrayVariants then
    slots.zipIdx.map fun (slot, i) => (Int8.ofNat i, slot)
  else []

mutual

/-- The array that a column of a type is laid out as. -/
def layout : DataType → Except StorageError PhysicalType
  | .primitive kind => .ok (layoutKind kind)
  | .struct fields => do return .struct (← layoutFields fields)
  | .list element => do
    let item ← layout element
    return .list ⟨"element", item, true, notes element⟩
  | .map key value => do
    let k ← layout key
    let v ← layout value
    return .map
      ⟨"key_value", .struct [⟨"key", k, false, notes key⟩, ⟨"value", v, true, notes value⟩], false, []⟩
      false
  | .union variants => do
    if maxArrayVariants < variants.length then
      .error (.unsupported (.variants (.union variants)))
    let slots ← layoutVariants 0 variants
    return .union .dense (numbered slots)

/-- The arrays of fields. -/
def layoutFields : List (Named DataType) → Except StorageError (List PhysicalField)
  | [] => .ok []
  | ⟨name, type⟩ :: rest => do
    let first ← layout type
    let rest ← layoutFields rest
    return ⟨name, first, true, notes type⟩ :: rest

/-- The arrays of variants, which are named by their position. -/
def layoutVariants (index : Nat) : List DataType → Except StorageError (List PhysicalField)
  | [] => .ok []
  | type :: rest => do
    let first ← layout type
    let rest ← layoutVariants (index + 1) rest
    return ⟨"_" ++ toString index, first, true, notes type⟩ :: rest

end

/-- The named array of a named column. -/
def layoutField (name : String) (type : DataType) : Except StorageError PhysicalField := do
  return ⟨name, ← layout type, true, notes type⟩

/-- The bound that a note spells: digits, perhaps after a plus sign, of at most 32 bits. -/
def readLimit? (text : String) : Option UInt32 :=
  let digits := match text.toList with
    | '+' :: rest => rest
    | cs => cs
  ((natOfDigits? digits).filter fun n => decide (n < twoPow 32)).map (·.toUInt32)

/-- What is noted under a key. -/
def note? (metadata : List (String × String)) (key : String) : Option String :=
  (metadata.find? (·.1 == key)).map (·.2)

/-- The kind of text that an array holds. -/
def textKind (name : String) (metadata : List (String × String)) : Except StorageError Kind :=
  match note? metadata textKindNote with
  | none => .ok .string
  | some kind =>
    match note? metadata textLengthNote >>= readLimit? with
    | none => .error (.unsupported (.untoldLength name kind))
    | some limit =>
      if kind = "char" then .ok (.char limit)
      else if kind = "varchar" then .ok (.varchar limit)
      else .error (.unsupported (.textKind name kind))

/-- The struct of some fields, whose names must not be blank or repeated. -/
def structOf (fields : List Field) : Except StorageError DataType :=
  match StructType.ofFields fields with
  | .ok s => .ok s.type
  | .error e => .error (.schema e)

mutual

/-- The type whose columns an array holds; `name` and `metadata` are those of the array. -/
def dataType (name : String) (metadata : List (String × String)) :
    PhysicalType → Except StorageError DataType
  | .utf8 | .largeUtf8 => do return .primitive (← textKind name metadata)
  | .boolean => .ok (.primitive .boolean)
  | .int8 => .ok (.primitive .byte)
  | .int16 => .ok (.primitive .short)
  | .int32 => .ok (.primitive .int)
  | .int64 => .ok (.primitive .long)
  | .float32 => .ok (.primitive .float)
  | .float64 => .ok (.primitive .double)
  | .binary | .largeBinary => .ok (.primitive .binary)
  | .date32 => .ok (.primitive .date)
  | .timestamp .nanosecond none => .ok (.primitive .timestamp)
  | .decimal128 precision scale =>
    if scale < 0 then .error (.unsupported (.field name (.decimal128 precision scale)))
    else .ok (.primitive (.decimal precision scale.toUInt8))
  | .struct fields => do structOf (← dataTypeFields fields)
  | .list ⟨item, type, _, metadata⟩ => do return .list (← dataType item metadata type)
  | .map ⟨_, .struct [⟨k, key, _, keyNotes⟩, ⟨v, value, _, valueNotes⟩], _, _⟩ _ => do
    let key ← dataType k keyNotes key
    let value ← dataType v valueNotes value
    return .map key value
  | .union .dense variants => do
    let refusal := StorageError.unsupported (.field name (.union .dense variants))
    return .union (← dataTypeVariants refusal 0 variants)
  | other => .error (.unsupported (.field name other))

/-- The fields that arrays hold. -/
def dataTypeFields : List (Slot PhysicalType) → Except StorageError (List Field)
  | [] => .ok []
  | ⟨name, type, _, metadata⟩ :: rest => do
    let first ← dataType name metadata type
    let rest ← dataTypeFields rest
    return ⟨name, first⟩ :: rest

/-- The variants that arrays hold; their numbers have to be their positions. -/
def dataTypeVariants (refusal : StorageError) (index : Nat) :
    List (Int8 × Slot PhysicalType) → Except StorageError (List DataType)
  | [] => .ok []
  | (id, ⟨name, type, _, metadata⟩) :: rest =>
    if id.toInt ≠ index then .error refusal
    else do
      let first ← dataType name metadata type
      let rest ← dataTypeVariants refusal (index + 1) rest
      return first :: rest

end

/-- The type whose columns a named array holds. -/
def fieldType (field : PhysicalField) : Except StorageError DataType :=
  dataType field.name field.metadata field.type

/-- The arrays of the columns of a schema. -/
def layoutSchema (schema : StructType) : Except StorageError (List PhysicalField) :=
  layoutFields schema.fields

/-- The schema whose columns some arrays hold. -/
def schemaOf (slots : List PhysicalField) : Except StorageError StructType := do
  (StructType.ofFields (← dataTypeFields slots)).mapError .schema

end ColumnScan.Columnar
