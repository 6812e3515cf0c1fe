import ColumnScan.Convert.Failure

/-!
# Converters

A converter takes the values of one type from the application's side to the column's side and back.
It is given by what it does with values other than null; null always stays null. The converters of
composite types are made from those of their parts.
-/

namespace ColumnScan

/-- The two directions of a conversion, for values other than null. -/
structure Converter where
  store : Native → Except ConvertError Stored
  restore : Stored → Except ConvertError Native

namespace Converter

/-- Takes a value to the column's side. -/
def toStored (c : Converter) : Native → Except ConvertError Stored
  | .null => .ok .null
  | value => c.store value

/-- Takes a value to the application's side. -/
def toNative (c : Converter) : Stored → Except ConvertError Native
  | .null => .ok .null
  | value => c.restore value

/-- A native value of the wrong kind. -/
def refuseNative {α : Type} (value : Native) (expected : Expected) : Except ConvertError α :=
  .error (.mismatch (.native value) expected)

/-- A stored value of the wrong kind. -/
def refuseStored {α : Type} (value : Stored) (expected : Expected) : Except ConvertError α :=
  .error (.mismatch (.stored value) expected)

/-! ## Scalars -/

/-- Whether a scalar is what a column of this kind holds on both sides. -/
def holds : Kind → Scalar → Bool
  | .string, .string _ => true
  | .boolean, .boolean _ => true
  | .byte, .byte _ => true
  | .short, .short _ => true
  | .int, .int _ => true
  | .long, .long _ => true
  | .float, .float _ => true
  | .double, .double _ => true
  | .binary, .binary _ => true
  | _, _ => false

/-- Columns whose values have the same form on both sides. -/
def same (kind : Kind) : Converter where
  store
    | .scalar s => if holds kind s then .ok (.scalar s) else refuseNative (.scalar s) (.scalar kind)
    | value => refuseNative value (.scalar kind)
  restore
    | .scalar s => if holds kind s then .ok (.scalar s) else refuseStored (.scalar s) (.scalar kind)
    | value => refuseStored value (.scalar kind)

/-- Dates are stored as days since 1 January 1970. -/
def date : Converter where
  store
    | .date d => .ok (.date (Int32.ofInt d.toDays))
    | value => refuseNative value (.scalar .date)
  restore
    | .date days =>
      match Calendar.Date.ofDays? days.toInt with
      | some d => .ok (.date d)
      | none => .error (.outOfRange (.stored (.date days)) .date)
    | value => refuseStored value (.scalar .date)

/-- Timestamps are stored as nanoseconds since the beginning of 1970. -/
def timestamp : Converter where
  store
    | .timestamp t =>
      match t.toNanos? with
      | some nanos => .ok (.timestamp (Int64.ofInt nanos))
      | none => .error (.outOfRange (.native (.timestamp t)) .timestamp)
    | value => refuseNative value (.scalar .timestamp)
  restore
    | .timestamp nanos =>
      match Calendar.DateTime.ofNanos? nanos.toInt with
      | some t => .ok (.timestamp t)
      | none => .error (.outOfRange (.stored (.timestamp nanos)) .timestamp)
    | value => refuseStored value (.scalar .timestamp)

/-- The decimal that a native value gives: itself or the one its text spells. -/
def decimalOf? : Native → Option Decimal
  | .scalar (.decimal d) => some d
  | .scalar (.string s) => (Decimal.read s).toOption
  | _ => none

/-- The decimal rounded to the scale of a column, if it then has no more digits than allowed. -/
def fitDecimal? (precision scale : UInt8) (d : Decimal) : Option Decimal :=
  (d.rescale scale.toNat).filter fun e => decide (e.precision ≤ precision.toNat)

/-- Decimals are rounded to the scale of their column, ties away from zero. -/
def decimal (precision scale : UInt8) : Converter where
  store value :=
    match decimalOf? value with
    | none => refuseNative value (.scalar (.decimal precision scale))
    | some d =>
      match fitDecimal? precision scale d with
      | some e => .ok (.scalar (.decimal e))
      | none => .error (.outOfRange (.native value) (.decimal precision scale))
  restore
    | .scalar (.decimal d) => .ok (.scalar (.decimal d))
    | value => refuseStored value (.scalar (.decimal precision scale))

/-- Text that is cut to the bound of its column. -/
def char (limit : UInt32) : Converter where
  store
    | .scalar (.string s) => .ok (.char (.cut s limit))
    | value => refuseNative value (.scalar (.char limit))
  restore
    | .char s => .ok (.scalar (.string s.value))
    | value => refuseStored value (.scalar (.char limit))

/-- Text that is cut to the bound of its column. -/
def varchar (limit : UInt32) : Converter where
  store
    | .scalar (.string s) => .ok (.varchar (.cut s limit))
    | value => refuseNative value (.scalar (.varchar limit))
  restore
    | .varchar s => .ok (.scalar (.string s.value))
    | value => refuseStored value (.scalar (.varchar limit))

/-- The converter of a scalar kind. -/
def ofKind : Kind → Converter
  | .date => date
  | .timestamp => timestamp
  | .decimal precision scale => decimal precision scale
  | .char limit => char limit
  | .varchar limit => varchar limit
  | kind => same kind

/-! ## Composites -/

/-- Stores as many values as there are converters, each with its own. -/
def storeEach : List Converter → List Native → Except ConvertError (List Stored)
  | c :: cs, v :: vs => do
    let first ← c.toStored v
    let rest ← storeEach cs vs
    return first :: rest
  | _, _ => .ok []

/-- Restores as many values as there are converters, each with its own. -/
def restoreEach : List Converter → List Stored → Except ConvertError (List Native)
  | c :: cs, v :: vs => do
    let first ← c.toNative v
    let rest ← restoreEach cs vs
    return first :: rest
  | _, _ => .ok []

/-- A struct is a list with one value for each field. -/
def struct (fields : List Converter) : Converter where
  store
    | .list values =>
      if values.length = fields.length then (storeEach fields values).map .struct
      else .error (.arity fields.length values.length)
    | value => refuseNative value .struct
  restore
    | .struct values =>
      if values.length = fields.length then (restoreEach fields values).map .list
      else .error (.arity fields.length values.length)
    | value => refuseStored value .struct

/-- Stores values one after the other. -/
def storeAll (c : Converter) : List Native → Except ConvertError (List Stored)
  | [] => .ok []
  | v :: vs => do
    let first ← c.toStored v
    let rest ← storeAll c vs
    return first :: rest

/-- Restores values one after the other. -/
def restoreAll (c : Converter) : List Stored → Except ConvertError (List Native)
  | [] => .ok []
  | v :: vs => do
    let first ← c.toNative v
    let rest ← restoreAll c vs
    return first :: rest

/-- A list is converted item by item. -/
def list (element : Converter) : Converter where
  store
    | .list values => (storeAll element values).map .list
    | value => refuseNative value .list
  restore
    | .list values => (restoreAll element values).map .list
    | value => refuseStored value .list

/-- Stores entries one after the other, key before value. -/
def storeEntries (key value : Converter) :
    List (Native × Native) → Except ConvertError (List (Stored × Stored))
  | [] => .ok []
  | (k, v) :: rest => do
    let storedKey ← key.toStored k
    let storedValue ← value.toStored v
    let others ← storeEntries key value rest
    return (storedKey, storedValue) :: others

/-- Restores entries one after the other, key before value. -/
def restoreEntries (key value : Converter) :
    List (Stored × Stored) → Except ConvertError (List (Native × Native))
  | [] => .ok []
  | (k, v) :: rest => do
    let nativeKey ← key.toNative k
    let nativeValue ← value.toNative v
    let others ← restoreEntries key value rest
    return (nativeKey, nativeValue) :: others

/-- A map is converted entry by entry; of keys that become equal the first stays, with the last
value. -/
def map (key value : Converter) : Converter where
  store
    | .map entries => (storeEntries key value entries).map Stored.ofPairs
    | v => refuseNative v .map
  restore
    | .map entries => (restoreEntries key value entries).map Native.ofPairs
    | v => refuseStored v .map

/-- The first variant that takes a value, from the variant `tag` on. Only a value of the wrong kind
moves on to the next variant; a tag has eight bits. -/
def storeVariant (value : Native) (tag : Nat) : List Converter → Except ConvertError Stored
  | [] => refuseNative value .union
  | c :: cs =>
    if 255 < tag then refuseNative value .union
    else
      match c.toStored value with
      | .ok stored => .ok (.union tag.toUInt8 stored)
      | .error e => if e.isMismatch then storeVariant value (tag + 1) cs else .error e

/-- A union stores a value with the first variant that takes it and restores it by its tag. -/
def union (variants : List Converter) : Converter where
  store value := storeVariant value 0 variants
  restore
    | .union tag value =>
      match variants[tag.toNat]? with
      | some c => c.toNative value
      | none => .error (.unknownTag tag variants.length)
    | value => refuseStored value .union

end Converter

end ColumnScan
