import ColumnScan.Schema.DataType
import ColumnScan.Value.Native
import ColumnScan.Value.Stored

/-!
# Why a value cannot be converted

A value of the wrong kind, a value of the right kind that the column has no room for, a struct of
the wrong size and a union whose tag names no variant; each may be wrapped in the name of the field
in which it happened.
-/

namespace ColumnScan

/-- What a converter was asked to convert. -/
inductive Offender where
  | native (value : Native)
  | stored (value : Stored)

/-- The value as it is shown. -/
def Offender.text : Offender → String
  | .native v => v.text
  | .stored v => v.text

/-- The kind of the value. -/
def Offender.kindName : Offender → String
  | .native v => v.kindName
  | .stored v => v.kindName

/-- What a converter converts. -/
inductive Expected where
  | scalar (kind : Kind)
  | struct
  | list
  | map
  | union
deriving DecidableEq, Repr

/-- What a converter converts, as it is shown. -/
def Expected.text : Expected → String
  | .scalar kind => kind.text
  | .struct => "struct"
  | .list => "list"
  | .map => "map"
  | .union => "union"

/-- Why a value cannot be converted. -/
inductive ConvertError where
  /-- The value has not the kind that the converter takes. -/
  | mismatch (value : Offender) (expected : Expected)
  /-- The value has the right kind but does not fit the column. -/
  | outOfRange (value : Offender) (target : Kind)
  /-- A struct has another number of values than fields. -/
  | arity (expected actual : Nat)
  /-- A union's tag is beyond its variants. -/
  | unknownTag (tag : UInt8) (variants : Nat)
  /-- The failure happened in this field. -/
  | field (name : String) (source : ConvertError)

namespace ConvertError

/-- The wording of a failure. -/
def message : ConvertError → String
  | .mismatch value expected =>
    "unexpected " ++ value.kindName ++ " value " ++ value.text ++ ", expected " ++ expected.text
  | .outOfRange value target => "value " ++ value.text ++ " is out of range for " ++ target.text
  | .arity expected actual =>
    "struct expects " ++ toString expected ++ " values, got " ++ toString actual
  | .unknownTag tag variants =>
    "union tag " ++ toString tag.toNat ++ " has no variant (union declares " ++ toString variants ++
      ")"
  | .field name source => "field '" ++ name ++ "': " ++ source.message

/-- The failure without the fields around it. -/
def root : ConvertError → ConvertError
  | .field _ source => source.root
  | e => e

/-- The outermost field in which it happened. -/
def field? : ConvertError → Option String
  | .field name _ => some name
  | _ => none

/-- Whether the value had the wrong kind. -/
def isMismatch : ConvertError → Bool
  | .mismatch .. => true
  | _ => false

end ConvertError

end ColumnScan
