import ColumnScan.Decimal.Order
import ColumnScan.Decimal.Text
import ColumnScan.Ieee.Order
import ColumnScan.Ieee.Text
import ColumnScan.Text.Quoted

/-!
# Scalars

The scalars that an application and a column hold in the same form. They are ordered by kind and
then by content, floating-point numbers by their total order, which makes every scalar usable as a
key. `compare?` is the weaker comparison of predicates: only two scalars of one kind are comparable
and a not-a-number is comparable with nothing.
-/

namespace ColumnScan

/-- A scalar whose form is the same on both sides of a column. -/
inductive Scalar where
  | boolean (value : Bool)
  | byte (value : Int8)
  | short (value : Int16)
  | int (value : Int32)
  | long (value : Int64)
  | float (value : Ieee.Single)
  | double (value : Ieee.Double)
  | string (value : String)
  | binary (value : List UInt8)
  | decimal (value : Decimal)
deriving DecidableEq

namespace Scalar

/-- The name of the kind of scalar. -/
def kindName : Scalar → String
  | .boolean _ => "boolean"
  | .byte _ => "byte"
  | .short _ => "short"
  | .int _ => "int"
  | .long _ => "long"
  | .float _ => "float"
  | .double _ => "double"
  | .string _ => "string"
  | .binary _ => "binary"
  | .decimal _ => "decimal"

/-- The place of the kind among all kinds of values; dates and timestamps stand between binaries and
decimals. -/
def rank : Scalar → Nat
  | .boolean _ => 1
  | .byte _ => 2
  | .short _ => 3
  | .int _ => 4
  | .long _ => 5
  | .float _ => 6
  | .double _ => 7
  | .string _ => 8
  | .binary _ => 9
  | .decimal _ => 12

/-- The order of scalars: by content within a kind, else by kind. -/
def cmp : Scalar → Scalar → Ordering
  | .boolean a, .boolean b => compare a b
  | .byte a, .byte b => compare a.toInt b.toInt
  | .short a, .short b => compare a.toInt b.toInt
  | .int a, .int b => compare a.toInt b.toInt
  | .long a, .long b => compare a.toInt b.toInt
  | .float a, .float b => a.totalCmp b
  | .double a, .double b => a.totalCmp b
  | .string a, .string b => compare a b
  | .binary a, .binary b => List.compareLex (fun x y => compare x.toNat y.toNat) a b
  | .decimal a, .decimal b => a.cmp b
  | a, b => compare a.rank b.rank

/-- The comparison of two scalars of one kind, floating-point numbers compared as numbers. -/
def compare? : Scalar → Scalar → Option Ordering
  | .boolean a, .boolean b => some (compare a b)
  | .byte a, .byte b => some (compare a.toInt b.toInt)
  | .short a, .short b => some (compare a.toInt b.toInt)
  | .int a, .int b => some (compare a.toInt b.toInt)
  | .long a, .long b => some (compare a.toInt b.toInt)
  | .float a, .float b => a.compare? b
  | .double a, .double b => a.compare? b
  | .string a, .string b => some (compare a b)
  | .binary a, .binary b => some (List.compareLex (fun x y => compare x.toNat y.toNat) a b)
  | .decimal a, .decimal b => some (a.cmp b)
  | _, _ => none

/-- A scalar as it is shown: strings are quoted, of a binary only its size is told. -/
def text : Scalar → String
  | .boolean b => if b then "true" else "false"
  | .byte n => toString n.toInt
  | .short n => toString n.toInt
  | .int n => toString n.toInt
  | .long n => toString n.toInt
  | .float x => x.text
  | .double x => x.text
  | .string s => Text.quote s
  | .binary bytes => "<" ++ toString bytes.length ++ " bytes>"
  | .decimal d => d.text

end Scalar

end ColumnScan
