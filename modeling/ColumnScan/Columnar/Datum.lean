import ColumnScan.Columnar.PhysicalType
import ColumnScan.Storage.Failure
import ColumnScan.Value.Stored

/-!
# Entries of arrays

What one place of an array holds. An entry does not know its type: integers of every width, days,
nanoseconds and the digits of decimals are all integers, and text has no bound. `encodeScalar?` brings a
stored scalar into the form of its column, `decode` reads an entry as a value of a type if the array
is one that holds it. A union has no nulls of its own: null is a null of its first variant, and a
null of any variant is read as null.
-/

namespace ColumnScan.Columnar

/-- What one place of an array holds. -/
inductive Datum where
  | null
  | boolean (value : Bool)
  | integer (value : Int)
  | single (value : Ieee.Single)
  | double (value : Ieee.Double)
  | text (value : String)
  | bytes (value : List UInt8)
  | struct (children : List Datum)
  | list (items : List Datum)
  | map (entries : List (Datum × Datum))
  | union (id : Nat) (value : Datum)
deriving Inhabited

/-- Whether a place is null. -/
def Datum.isNull : Datum → Bool
  | .null => true
  | _ => false

/-! ## From values to entries -/

/-- The entry of a scalar in a column of its kind; decimals are brought to the column's scale. -/
def encodeScalar? : Kind → Stored → Option Datum
  | .string, .scalar (.string s) => some (.text s)
  | .char _, .char s => some (.text s.value)
  | .varchar _, .varchar s => some (.text s.value)
  | .boolean, .scalar (.boolean b) => some (.boolean b)
  | .byte, .scalar (.byte n) => some (.integer n.toInt)
  | .short, .scalar (.short n) => some (.integer n.toInt)
  | .int, .scalar (.int n) => some (.integer n.toInt)
  | .long, .scalar (.long n) => some (.integer n.toInt)
  | .float, .scalar (.float x) => some (.single x)
  | .double, .scalar (.double x) => some (.double x)
  | .binary, .scalar (.binary bytes) => some (.bytes bytes)
  | .date, .date days => some (.integer days.toInt)
  | .timestamp, .timestamp nanos => some (.integer nanos.toInt)
  | .decimal _ scale, .scalar (.decimal d) => (d.rescale scale.toNat).map fun e => .integer e.unscaled
  | _, _ => none

/-! ## From entries to values -/

/-- An array that does not hold such a column. -/
def refuseArray {α : Type} (array : PhysicalType) (type : DataType) : Except StorageError α :=
  .error (.unsupported (.array array type))

/-- The decimal with these digits, if it has not too many places. -/
def decodeDecimal (array : PhysicalType) (kind : Kind) (unscaled : Int) (scale : UInt8) :
    Except StorageError Stored :=
  if h : InWidth Decimal.width unscaled then
    match Decimal.make unscaled h scale.toNat with
    | .ok d => .ok (.scalar (.decimal d))
    | .error e => .error (.unsupported (.scale e))
  else refuseArray array (.primitive kind)

/-- An entry, which is not null, as a scalar. -/
def decodeScalar (kind : Kind) (array : PhysicalType) (entry : Datum) :
    Except StorageError Stored :=
  match kind, array, entry with
  | .string, .utf8, .text s | .string, .largeUtf8, .text s => .ok (.scalar (.string s))
  | .char limit, .utf8, .text s | .char limit, .largeUtf8, .text s => .ok (.char (.cut s limit))
  | .varchar limit, .utf8, .text s | .varchar limit, .largeUtf8, .text s =>
    .ok (.varchar (.cut s limit))
  | .boolean, .boolean, .boolean b => .ok (.scalar (.boolean b))
  | .byte, .int8, .integer n => .ok (.scalar (.byte (Int8.ofInt n)))
  | .short, .int16, .integer n => .ok (.scalar (.short (Int16.ofInt n)))
  | .int, .int32, .integer n => .ok (.scalar (.int (Int32.ofInt n)))
  | .long, .int64, .integer n => .ok (.scalar (.long (Int64.ofInt n)))
  | .float, .float32, .single x => .ok (.scalar (.float x))
  | .double, .float64, .double x => .ok (.scalar (.double x))
  | .binary, .binary, .bytes bytes | .binary, .largeBinary, .bytes bytes =>
    .ok (.scalar (.binary bytes))
  | .date, .date32, .integer n => .ok (.date (Int32.ofInt n))
  | .timestamp, .timestamp .nanosecond _, .integer n => .ok (.timestamp (Int64.ofInt n))
  | .decimal precision scale, .decimal128 p s, .integer n =>
    decodeDecimal (.decimal128 p s) (.decimal precision scale) n scale
  | kind, array, _ => refuseArray array (.primitive kind)

/-- The array of a variant. -/
def variantArray? (variants : List (Int8 × PhysicalField)) (id : Nat) : Option PhysicalType :=
  (variants.find? fun v => v.1.toInt == (id : Int)).map (·.2.type)

/-- The value of a union whose variant has been read. -/
def unionOf (id : Nat) (value : Stored) : Stored :=
  if value.isNull then .null else .union id.toUInt8 value

mutual

/-- An entry of an array as a value of a type. -/
def decode (type : DataType) (array : PhysicalType) (entry : Datum) : Except StorageError Stored :=
  if entry.isNull then .ok .null
  else
    match type with
    | .primitive kind => decodeScalar kind array entry
    | .struct fields =>
      match array, entry with
      | .struct slots, .struct children => (decodeFields fields slots children).map .struct
      | _, _ => refuseArray array (.struct fields)
    | .list element =>
      match array, entry with
      | .list item, .list items =>
        (items.mapM fun d => decode element item.type d).map .list
      | _, _ => refuseArray array (.list element)
    | .map key value =>
      match array, entry with
      | .map ⟨_, .struct [k, v], _, _⟩ _, .map entries =>
        (entries.mapM fun (e : Datum × Datum) => do
          let first ← decode key k.type e.1
          let second ← decode value v.type e.2
          return (first, second)).map Stored.ofPairs
      | _, _ => refuseArray array (.map key value)
    | .union variants =>
      match array, entry with
      | .union _ slots, .union id inner =>
        match variantArray? slots id with
        | some slot => (decodeVariant id variants id slot inner).map (unionOf id)
        | none => .error (.unsupported (.variant id))
      | _, _ => refuseArray array (.union variants)

/-- The children of a struct: as many as there are both fields and arrays. -/
def decodeFields : List (Named DataType) → List PhysicalField → List Datum →
    Except StorageError (List Stored)
  | ⟨_, type⟩ :: fields, slot :: slots, child :: children => do
    let first ← decode type slot.type child
    let rest ← decodeFields fields slots children
    return first :: rest
  | _, _, _ => .ok []

/-- An entry as a value of the variant at a position; `id` is what a refusal tells. -/
def decodeVariant (id : Nat) : List DataType → Nat → PhysicalType → Datum →
    Except StorageError Stored
  | [], _, _, _ => .error (.unsupported (.variant id))
  | type :: _, 0, array, entry => decode type array entry
  | _ :: rest, index + 1, array, entry => decodeVariant id rest index array entry

end

end ColumnScan.Columnar
