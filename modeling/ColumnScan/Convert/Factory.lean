import ColumnScan.Convert.Converter
import ColumnScan.Schema.Fault
import ColumnScan.Text.CaseMap

/-!
# Building converters

The converter of a type is built from the converters of its parts. A factory may have a converter
of its own for some types, at any depth; every other type gets the stock one. A type with a bad
parameter has no converter. `steps` counts the types for which a converter is asked, up to the first
bad one.
-/

namespace ColumnScan

/-- The types for which a factory has a converter of its own. -/
structure ConverterFactory where
  own : DataType → Option Converter

namespace ConverterFactory

/-- The factory of the stock converters. -/
def stock : ConverterFactory := ⟨fun _ => none⟩

/-- Text in upper case on its way to the column. -/
def upperCaseString : Converter where
  store
    | .scalar (.string s) => .ok (.scalar (.string (Text.uppercase s)))
    | value => Converter.refuseNative value (.scalar .string)
  restore := (Converter.ofKind .string).restore

/-- The factory that stores the text of string columns in upper case and is stock otherwise. -/
def upperCasing : ConverterFactory where
  own
    | .primitive .string => some upperCaseString
    | _ => none

mutual

/-- The converter of a type. -/
def build (f : ConverterFactory) (type : DataType) : Except SchemaError Converter :=
  match f.own type with
  | some c => .ok c
  | none =>
    match type with
    | .primitive kind => do
      kind.validate
      return Converter.ofKind kind
    | .struct fields => return Converter.struct (← buildFields f fields)
    | .list element => return Converter.list (← build f element)
    | .map key value => do
      let key ← build f key
      let value ← build f value
      return Converter.map key value
    | .union variants => do
      checkVariants variants
      return Converter.union (← buildVariants f variants)

/-- The converters of variants in their order. -/
def buildVariants (f : ConverterFactory) : List DataType → Except SchemaError (List Converter)
  | [] => .ok []
  | type :: rest => do
    let first ← build f type
    let rest ← buildVariants f rest
    return first :: rest

/-- The converters of fields in their order. -/
def buildFields (f : ConverterFactory) :
    List (Named DataType) → Except SchemaError (List Converter)
  | [] => .ok []
  | ⟨_, type⟩ :: rest => do
    let first ← build f type
    let rest ← buildFields f rest
    return first :: rest

end

/-- Whether a type has a converter. -/
def builds (f : ConverterFactory) (type : DataType) : Bool := (f.build type).isOk

mutual

/-- The number of types for which a converter is asked when one is built. -/
def steps (f : ConverterFactory) (type : DataType) : Nat :=
  match f.own type with
  | some _ => 1
  | none =>
    match type with
    | .primitive _ => 1
    | .struct fields => 1 + stepsFields f fields
    | .list element => 1 + steps f element
    | .map key value => 1 + steps f key + (if f.builds key then steps f value else 0)
    | .union variants => 1 + (if (checkVariants variants).isOk then stepsVariants f variants else 0)

/-- The same for variants, up to the first bad one. -/
def stepsVariants (f : ConverterFactory) : List DataType → Nat
  | [] => 0
  | type :: rest => steps f type + (if f.builds type then stepsVariants f rest else 0)

/-- The same for fields, up to the first bad one. -/
def stepsFields (f : ConverterFactory) : List (Named DataType) → Nat
  | [] => 0
  | ⟨_, type⟩ :: rest => steps f type + (if f.builds type then stepsFields f rest else 0)

end

end ConverterFactory

end ColumnScan
