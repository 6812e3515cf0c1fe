import ColumnScan.Calendar.DateTime
import ColumnScan.Value.Entries
import ColumnScan.Value.Scalar

/-!
# Native values

What an application reads and writes. A struct has no form of its own here: it is a list. Values
are totally ordered, null first and different kinds by kind, so that any value can be the key of a
map, and two values are the same when that order says so.
-/

namespace ColumnScan

/-- A value on the application's side. -/
inductive Native where
  | null
  | scalar (value : Scalar)
  | date (value : Calendar.Date)
  | timestamp (value : Calendar.DateTime)
  | list (items : List Native)
  | map (entries : List (Native × Native))
deriving Inhabited

namespace Native

/-- Whether the value is null. -/
def isNull : Native → Bool
  | .null => true
  | _ => false

/-- The name of the kind of value. -/
def kindName : Native → String
  | .null => "null"
  | .scalar s => s.kindName
  | .date _ => "date"
  | .timestamp _ => "timestamp"
  | .list _ => "list"
  | .map _ => "map"

/-- The place of the kind in the order of kinds. -/
def rank : Native → Nat
  | .null => 0
  | .scalar s => s.rank
  | .date _ => 10
  | .timestamp _ => 11
  | .list _ => 13
  | .map _ => 14

/-- The text, if the value is a string. -/
def asString? : Native → Option String
  | .scalar (.string s) => some s
  | _ => none

mutual

/-- The order of values. -/
def cmp : Native → Native → Ordering
  | .null, .null => .eq
  | .scalar a, .scalar b => a.cmp b
  | .date a, .date b => a.cmp b
  | .timestamp a, .timestamp b => a.cmp b
  | .list a, .list b => cmpList a b
  | .map a, .map b => cmpEntries a b
  | a, b => compare a.rank b.rank

/-- Item by item; a list that ends first comes first. -/
def cmpList : List Native → List Native → Ordering
  | [], [] => .eq
  | [], _ :: _ => .lt
  | _ :: _, [] => .gt
  | a :: as, b :: bs => (cmp a b).then (cmpList as bs)

/-- Entry by entry, key before value. -/
def cmpEntries : List (Native × Native) → List (Native × Native) → Ordering
  | [], [] => .eq
  | [], _ :: _ => .lt
  | _ :: _, [] => .gt
  | (k, v) :: as, (l, w) :: bs => ((cmp k l).then (cmp v w)).then (cmpEntries as bs)

end

/-- Whether two values are the same. -/
def same (a b : Native) : Bool := (a.cmp b).isEq

/-- The map of some pairs, put in one after the other. -/
def ofPairs (pairs : List (Native × Native)) : Native := .map (Entries.ofList cmp pairs)

mutual

/-- A value as it is shown. -/
def text : Native → String
  | .null => "NULL"
  | .scalar s => s.text
  | .date d => d.text
  | .timestamp t => t.text
  | .list items => "[" ++ ", ".intercalate (textList items) ++ "]"
  | .map entries => "\x7b" ++ ", ".intercalate (textEntries entries) ++ "\x7d"

/-- The items as they are shown. -/
def textList : List Native → List String
  | [] => []
  | v :: rest => v.text :: textList rest

/-- The entries as they are shown. -/
def textEntries : List (Native × Native) → List String
  | [] => []
  | (k, v) :: rest => (k.text ++ ": " ++ v.text) :: textEntries rest

end

end Native

end ColumnScan
