import ColumnScan.Json.Reader
import ColumnScan.Json.Record
import ColumnScan.Predicate.SearchArgument

/-!
# Search arguments as text

A search argument travels as a JSON text: the table of leaves and the expression. Reading one back
keeps the columns as they are written and checks that every leaf is in the table.
-/

namespace ColumnScan

namespace Operator

/-- The name of an operator in a text. -/
def name : Operator → String
  | .equals => "Equals"
  | .nullSafeEquals => "NullSafeEquals"
  | .lessThan => "LessThan"
  | .lessThanEquals => "LessThanEquals"
  | .inList => "In"
  | .between => "Between"
  | .isNull => "IsNull"

/-- The operator with this name. -/
def ofName? (name : String) : Option Operator :=
  [equals, nullSafeEquals, lessThan, lessThanEquals, inList, between, isNull].find?
    (·.name == name)

end Operator

namespace Truth

/-- The name of a verdict in a text. -/
def name : Truth → String
  | .yes => "Yes"
  | .no => "No"
  | .unknown => "Unknown"

/-- The verdict with this name. -/
def ofName? (name : String) : Option Truth := [yes, no, unknown].find? (·.name == name)

end Truth

namespace Literal

/-- A literal as JSON. -/
def encode : Literal → Json
  | .null => .ofString "Null"
  | .boolean b => .choice "Boolean" (.bool b)
  | .long n => .choice "Long" (.ofInt n.toInt)
  | .float x => .choice "Float" (.ofDouble x)
  | .string s => .choice "String" (.ofString s)
  | .decimal s => .choice "Decimal" (.ofString s)
  | .timestamp n => .choice "Timestamp" (.ofInt n.toInt)
  | .date n => .choice "Date" (.ofInt n.toInt)

/-- The integer of 64 bits that a JSON value stands for. -/
def decodeLong (j : Json) : Option Int64 :=
  (j.toIntWithin? (-twoPow 63) (twoPow 63 - 1)).map Int64.ofInt

/-- The integer of 32 bits that a JSON value stands for. -/
def decodeInt (j : Json) : Option Int32 :=
  (j.toIntWithin? (-twoPow 31) (twoPow 31 - 1)).map Int32.ofInt

/-- The literal that a choice with content stands for. -/
def decodeContent (form : String) (content : Json) : Option Literal :=
  if form = "Boolean" then content.toBool?.map .boolean
  else if form = "Long" then (decodeLong content).map .long
  else if form = "Float" then content.toDouble?.map .float
  else if form = "String" then content.toText?.map .string
  else if form = "Decimal" then content.toText?.map .decimal
  else if form = "Timestamp" then (decodeLong content).map .timestamp
  else if form = "Date" then (decodeInt content).map .date
  else none

/-- The literal that a JSON value stands for. -/
def decode (j : Json) : Option Literal :=
  if j.plainChoice? = some "Null" then some .null
  else
    match j with
    | .object [(some form, content)] => decodeContent form content
    | _ => none

end Literal

namespace Leaf

/-- A leaf as JSON. -/
def encode (l : Leaf) : Json :=
  .ofMembers [("operator", .ofString l.operator.name), ("column", .ofString l.column),
    ("literals", .array (l.literals.map (·.encode)))]

/-- The leaf that a JSON value stands for. -/
def decode (j : Json) : Option Leaf := do
  match ← Json.record? ["operator", "column", "literals"] j with
  | [some operator, some column, some literals] =>
    let operator ← operator.plainChoice? >>= Operator.ofName?
    let column ← column.toText?
    let literals ← literals.toList? Literal.decode
    return ⟨operator, column, literals⟩
  | _ => none

end Leaf

namespace Expression

mutual

/-- An expression as JSON. -/
def encode : Expression → Json
  | .and children => .choice "And" (.array (encodeAll children))
  | .or children => .choice "Or" (.array (encodeAll children))
  | .not child => .choice "Not" (encode child)
  | .leaf index => .choice "Leaf" (.ofInt index)
  | .constant value => .choice "Constant" (.ofString value.name)

/-- Expressions as JSON. -/
def encodeAll : List Expression → List Json
  | [] => []
  | e :: rest => encode e :: encodeAll rest

end

mutual

/-- The expression that a JSON value stands for. -/
def decode : Json → Option Expression
  | .object [(some form, content)] =>
    if form = "Not" then (decode content).map .not
    else if form = "Leaf" then (content.toNat? 64).map .leaf
    else if form = "Constant" then (content.plainChoice? >>= Truth.ofName?).map .constant
    else
      match content with
      | .array items =>
        if form = "And" then (decodeAll items).map .and
        else if form = "Or" then (decodeAll items).map .or
        else none
      | _ => none
  | _ => none

/-- The expressions that JSON values stand for. -/
def decodeAll : List Json → Option (List Expression)
  | [] => some []
  | j :: rest => do
    let first ← decode j
    let rest ← decodeAll rest
    return first :: rest

end

end Expression

namespace SearchArgument

/-- A search argument as JSON. -/
def encode (a : SearchArgument) : Json :=
  .ofMembers [("leaves", .array (a.leaves.map (·.encode))), ("expression", a.expression.encode)]

/-- A search argument as text. -/
def toBlob (a : SearchArgument) : String := a.encode.print

/-- The parts that a text holds. -/
def decodeParts? (blob : String) : Option (List Leaf × Expression) := do
  match ← Json.record? ["leaves", "expression"] (← Json.read blob) with
  | [some leaves, some expression] =>
    let leaves ← leaves.toList? Leaf.decode
    let expression ← Expression.decode expression
    return (leaves, expression)
  | _ => none

/-- The search argument that a text holds. -/
def ofBlob (blob : String) : Except PredicateError SearchArgument :=
  match decodeParts? blob with
  | some (leaves, expression) => ofParts leaves expression
  | none => .error .undecodable

end SearchArgument

end ColumnScan
