import ColumnScan.Json.Reader
import ColumnScan.Json.Record
import ColumnScan.Schema.StructType

/-!
# Types as JSON

A type is a choice named after its form, a kind a choice named after it, a struct a list of records
with a name and a type. Reading a struct checks its names as making one does.
-/

namespace ColumnScan

namespace Kind

/-- A kind as JSON. -/
def encode : Kind → Json
  | .string => .ofString "String"
  | .boolean => .ofString "Boolean"
  | .byte => .ofString "Byte"
  | .short => .ofString "Short"
  | .int => .ofString "Int"
  | .long => .ofString "Long"
  | .float => .ofString "Float"
  | .double => .ofString "Double"
  | .timestamp => .ofString "Timestamp"
  | .date => .ofString "Date"
  | .decimal precision scale =>
    .choice "Decimal"
      (.ofMembers [("precision", .ofInt precision.toNat), ("scale", .ofInt scale.toNat)])
  | .char limit => .choice "Char" (.ofInt limit.toNat)
  | .varchar limit => .choice "Varchar" (.ofInt limit.toNat)
  | .binary => .ofString "Binary"

/-- The kind without parameters that has this name. -/
def ofName? (name : String) : Option Kind :=
  if name = "String" then some .string
  else if name = "Boolean" then some .boolean
  else if name = "Byte" then some .byte
  else if name = "Short" then some .short
  else if name = "Int" then some .int
  else if name = "Long" then some .long
  else if name = "Float" then some .float
  else if name = "Double" then some .double
  else if name = "Timestamp" then some .timestamp
  else if name = "Date" then some .date
  else if name = "Binary" then some .binary
  else none

/-- The parameters of a decimal. -/
def decodeDecimal (j : Json) : Option Kind := do
  match ← Json.record? ["precision", "scale"] j with
  | [some precision, some scale] =>
    let precision ← precision.toNat? 8
    let scale ← scale.toNat? 8
    return .decimal precision.toUInt8 scale.toUInt8
  | _ => none

/-- The kind that a JSON value stands for. -/
def decode (j : Json) : Option Kind :=
  match j.choice? "Decimal", j.choice? "Char", j.choice? "Varchar" with
  | some content, _, _ => decodeDecimal content
  | _, some content, _ => (content.toNat? 32).map fun n => .char n.toUInt32
  | _, _, some content => (content.toNat? 32).map fun n => .varchar n.toUInt32
  | none, none, none => j.plainChoice? >>= ofName?

end Kind

namespace DataType

mutual

/-- A type as JSON. -/
def encode : DataType → Json
  | .primitive kind => .choice "Primitive" kind.encode
  | .struct fields => .choice "Struct" (.array (encodeFields fields))
  | .list element => .choice "List" element.encode
  | .map key value => .choice "Map" (.array [key.encode, value.encode])
  | .union variants => .choice "Union" (.array (encodeVariants variants))

/-- The variants of a union as JSON. -/
def encodeVariants : List DataType → List Json
  | [] => []
  | variant :: rest => variant.encode :: encodeVariants rest

/-- The fields of a struct as JSON. -/
def encodeFields : List (Named DataType) → List Json
  | [] => []
  | ⟨name, type⟩ :: rest =>
    .ofMembers [("name", .ofString name), ("data_type", type.encode)] :: encodeFields rest

end

/-- The field whose members are these; each comes with the type it stands for, if it is one. -/
def fieldOfMembers : List (Option (Json × Option DataType)) → Option Field
  | [some (name, _), some (_, type)] => do
    let name ← name.toText?
    let type ← type
    return ⟨name, type⟩
  | _ => none

/-- The struct with these fields, if its names are in order. -/
def structOfFields (fields : List Field) : Option DataType :=
  match StructType.ofFields fields with
  | .ok s => some s.type
  | .error _ => none

/-- The names of the members of a field. -/
def fieldMembers : List String := ["name", "data_type"]

mutual

/-- The type that a JSON value stands for. -/
def decode : Json → Option DataType
  | .object [(some form, content)] =>
    if form = "Primitive" then (Kind.decode content).map .primitive
    else if form = "List" then (decode content).map .list
    else
      match content with
      | .array items =>
        if form = "Struct" then decodeFields items >>= structOfFields
        else if form = "Union" then (decodeVariants items).map .union
        else if form = "Map" then
          match decodeVariants items with
          | some [key, value] => some (.map key value)
          | _ => none
        else none
      | _ => none
  | _ => none

/-- The types that JSON values stand for. -/
def decodeVariants : List Json → Option (List DataType)
  | [] => some []
  | j :: rest => do
    let variant ← decode j
    let rest ← decodeVariants rest
    return variant :: rest

/-- The fields that JSON values stand for. -/
def decodeFields : List Json → Option (List Field)
  | [] => some []
  | j :: rest => do
    let field ← decodeField j
    let rest ← decodeFields rest
    return field :: rest

/-- The field that a JSON value stands for. -/
def decodeField : Json → Option Field
  | .object members => Json.membersNamed? fieldMembers (typedMembers members) >>= fieldOfMembers
  | .array items => Json.membersInOrder? fieldMembers (typedItems items) >>= fieldOfMembers
  | _ => none

/-- Members with the types they stand for. -/
def typedMembers : List (Json.Text × Json) → List (Json.Text × (Json × Option DataType))
  | [] => []
  | (key, j) :: rest => (key, (j, decode j)) :: typedMembers rest

/-- Items with the types they stand for. -/
def typedItems : List Json → List (Json × Option DataType)
  | [] => []
  | j :: rest => (j, decode j) :: typedItems rest

end

/-- The type that a text stands for. -/
def ofJsonText? (s : String) : Option DataType := Json.read s >>= decode

/-- A type as a JSON text. -/
def jsonText (t : DataType) : String := t.encode.print

end DataType

namespace StructType

/-- A struct as JSON: the list of its fields. -/
def encode (s : StructType) : Json := .array (DataType.encodeFields s.fields)

/-- The struct that a JSON value stands for. -/
def decode : Json → Option StructType
  | .array items => do
    let fields ← DataType.decodeFields items
    match ofFields fields with
    | .ok s => some s
    | .error _ => none
  | _ => none

/-- A struct as a JSON text. -/
def jsonText (s : StructType) : String := s.encode.print

end StructType

end ColumnScan
