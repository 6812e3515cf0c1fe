import ColumnScan.Value.BoundedText
import ColumnScan.Value.Entries
import ColumnScan.Value.Scalar

/-!
# Stored values

What a column holds. Dates are days and timestamps nanoseconds since the beginning of 1970, bounded
text carries its bound, a struct is told from a list, and a union says which variant its value
belongs to. Stored values are totally ordered like native ones; `compare?` is the comparison that
predicates use.
-/

namespace ColumnScan

/-- A value on the column's side. -/
inductive Stored where
  | null
  | scalar (value : Scalar)
  | date (days : Int32)
  | timestamp (nanos : Int64)
  | char (value : BoundedText)
  | varchar (value : BoundedText)
  | struct (children : List Stored)
  | list (items : List Stored)
  | map (entries : List (Stored × Stored))
  | union (tag : UInt8) (value : Stored)
deriving Inhabited

namespace Stored

/-- Whether the value is null. -/
def isNull : Stored → Bool
  | .null => true
  | _ => false

/-- The name of the kind of value. -/
def kindName : Stored → String
  | .null => "null"
  | .scalar s => s.kindName
  | .date _ => "date"
  | .timestamp _ => "timestamp"
  | .char _ => "char"
  | .varchar _ => "varchar"
  | .struct _ => "struct"
  | .list _ => "list"
  | .map _ => "map"
  | .union .. => "union"

/-- The place of the kind in the order of kinds. -/
def rank : Stored → Nat
  | .null => 0
  | .scalar s => s.rank
  | .date _ => 10
  | .timestamp _ => 11
  | .char _ => 13
  | .varchar _ => 14
  | .struct _ => 15
  | .list _ => 16
  | .map _ => 17
  | .union .. => 18

/-- The comparison of two scalars of one kind; bounded texts are compared without their bounds.
Nulls, composites, values of different kinds and not-a-numbers are comparable with nothing. -/
def compare? : Stored → Stored → Option Ordering
  | .scalar a, .scalar b => a.compare? b
  | .date a, .date b => some (compare a.toInt b.toInt)
  | .timestamp a, .timestamp b => some (compare a.toInt b.toInt)
  | .char a, .char b => some (compare a.value b.value)
  | .varchar a, .varchar b => some (compare a.value b.value)
  | _, _ => none

mutual

/-- The order of values. -/
def cmp : Stored → Stored → Ordering
  | .null, .null => .eq
  | .scalar a, .scalar b => a.cmp b
  | .date a, .date b => compare a.toInt b.toInt
  | .timestamp a, .timestamp b => compare a.toInt b.toInt
  | .char a, .char b => a.cmp b
  | .varchar a, .varchar b => a.cmp b
  | .struct a, .struct b => cmpList a b
  | .list a, .list b => cmpList a b
  | .map a, .map b => cmpEntries a b
  | .union t a, .union u b => (compare t.toNat u.toNat).then (cmp a b)
  | a, b => compare a.rank b.rank

/-- Item by item; a list that ends first comes first. -/
def cmpList : List Stored → List Stored → Ordering
  | [], [] => .eq
  | [], _ :: _ => .lt
  | _ :: _, [] => .gt
  | a :: as, b :: bs => (cmp a b).then (cmpList as bs)

/-- Entry by entry, key before value. -/
def cmpEntries : List (Stored × Stored) → List (Stored × Stored) → Ordering
  | [], [] => .eq
  | [], _ :: _ => .lt
  | _ :: _, [] => .gt
  | (k, v) :: as, (l, w) :: bs => ((cmp k l).then (cmp v w)).then (cmpEntries as bs)

end

/-- Whether two values are the same. -/
def same (a b : Stored) : Bool := (a.cmp b).isEq

/-- The map of some pairs, put in one after the other. -/
def ofPairs (pairs : List (Stored × Stored)) : Stored := .map (Entries.ofList cmp pairs)

mutual

/-- A value as it is shown. -/
def text : Stored → String
  | .null => "NULL"
  | .scalar s => s.text
  | .date days => "date(" ++ toString days.toInt ++ ")"
  | .timestamp nanos => "timestamp(" ++ toString nanos.toInt ++ ")"
  | .char s => Text.quote s.value
  | .varchar s => Text.quote s.value
  | .struct children => "[" ++ ", ".intercalate (textList children) ++ "]"
  | .list items => "[" ++ ", ".intercalate (textList items) ++ "]"
  | .map entries => "\x7b" ++ ", ".intercalate (textEntries entries) ++ "\x7d"
  | .union tag value => toString tag.toNat ++ ":" ++ value.text

/-- The items as they are shown. -/
def textList : List Stored → List String
  | [] => []
  | v :: rest => v.text :: textList rest

/-- The entries as they are shown. -/
def textEntries : List (Stored × Stored) → List String
  | [] => []
  | (k, v) :: rest => (k.text ++ ": " ++ v.text) :: textEntries rest

end

end Stored

end ColumnScan
