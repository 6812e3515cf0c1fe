import ColumnScan.Schema.DataType

/-!
# What can be wrong with a schema

A type may carry parameters outside their bounds, a struct may have names that are blank or occur
twice, and two types that describe one column may disagree. `DataType.validate` finds the first bad
parameter, an outer type before the types in it and from left to right.
-/

namespace ColumnScan

/-- The largest number of digits of a decimal column. -/
def maxPrecision : Nat := 38

/-- The largest bound of a `char` column. -/
def maxCharLimit : Nat := 255

/-- The largest bound of a `varchar` column. -/
def maxVarcharLimit : Nat := 65535

/-- The largest number of variants of a union. -/
def maxVariants : Nat := 255

/-- A parameter of a type that is outside its bounds. -/
inductive TypeFault where
  | precision
  | scale (scale precision : UInt8)
  | charLimit
  | varcharLimit
  | variants
deriving DecidableEq, Repr

/-- The wording of a fault. -/
def TypeFault.message : TypeFault → String
  | .precision => "precision must be within 1..=" ++ toString maxPrecision
  | .scale s p => "scale " ++ toString s.toNat ++ " exceeds precision " ++ toString p.toNat
  | .charLimit => "length must be within 1..=" ++ toString maxCharLimit
  | .varcharLimit => "length must be within 1..=" ++ toString maxVarcharLimit
  | .variants => "union must declare 1..=" ++ toString maxVariants ++ " variants"

/-- What is wrong with a schema. -/
inductive SchemaError where
  /-- A name with nothing but blanks. -/
  | blankColumn
  /-- A name that an earlier field has already, case aside. -/
  | duplicateColumn (name : String)
  /-- A type with a bad parameter. -/
  | invalidType (type : DataType) (fault : TypeFault)
  /-- Two different types for one column. -/
  | mismatch (column : String) (expected actual : DataType)
deriving DecidableEq

/-- The wording of what is wrong. -/
def SchemaError.message : SchemaError → String
  | .blankColumn => "column name must not be blank"
  | .duplicateColumn name => "duplicate column name '" ++ name ++ "' (names are case-insensitive)"
  | .invalidType type fault => "invalid type " ++ type.text ++ ": " ++ fault.message
  | .mismatch column expected actual =>
    "column '" ++ column ++ "' is declared as " ++ expected.text ++ " but stored as " ++ actual.text

/-- The bad parameter of a kind, if it has one. -/
def Kind.fault? : Kind → Option TypeFault
  | .decimal precision scale =>
    if precision.toNat = 0 ∨ maxPrecision < precision.toNat then some .precision
    else if precision.toNat < scale.toNat then some (.scale scale precision)
    else none
  | .char limit =>
    if limit.toNat = 0 ∨ maxCharLimit < limit.toNat then some .charLimit else none
  | .varchar limit =>
    if limit.toNat = 0 ∨ maxVarcharLimit < limit.toNat then some .varcharLimit else none
  | _ => none

/-- A kind is valid when its parameters are within their bounds. -/
def Kind.validate (kind : Kind) : Except SchemaError Unit :=
  match kind.fault? with
  | some fault => .error (.invalidType (.primitive kind) fault)
  | none => .ok ()

/-- A union has at least one variant and not too many. -/
def checkVariants (variants : List DataType) : Except SchemaError Unit :=
  if variants.length = 0 ∨ maxVariants < variants.length then
    .error (.invalidType (.union variants) .variants)
  else .ok ()

namespace DataType

mutual

/-- Checks the parameters of a type and of every type in it. -/
def validate : DataType → Except SchemaError Unit
  | .primitive kind => kind.validate
  | .struct fields => validateFields fields
  | .list element => element.validate
  | .map key value => do
    key.validate
    value.validate
  | .union variants => do
    checkVariants variants
    validateVariants variants

/-- Checks variant by variant. -/
def validateVariants : List DataType → Except SchemaError Unit
  | [] => .ok ()
  | variant :: rest => do
    variant.validate
    validateVariants rest

/-- Checks field by field. -/
def validateFields : List (Named DataType) → Except SchemaError Unit
  | [] => .ok ()
  | ⟨_, type⟩ :: rest => do
    type.validate
    validateFields rest

end

end DataType

end ColumnScan
