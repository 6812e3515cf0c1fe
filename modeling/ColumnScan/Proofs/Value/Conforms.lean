import ColumnScan.Schema.DataType
import ColumnScan.Value.Stored

/-!
# Values that fit their column

A stored value conforms to a type when it is null or has the form of the type, part by part: a decimal
is rounded to the scale of its column and has no more digits than the column allows, bounded text
carries the bound of its column, a struct has one value for each field, the entries of a map ascend,
and a union holds a value other than null of the variant that its tag names.
-/

namespace ColumnScan

/-- The value, which is not null, has the form that a column of the scalar kind stores. -/
inductive Kind.Admits : Kind → Stored → Prop where
  | string (s : String) : Admits .string (.scalar (.string s))
  | boolean (b : Bool) : Admits .boolean (.scalar (.boolean b))
  | byte (n : Int8) : Admits .byte (.scalar (.byte n))
  | short (n : Int16) : Admits .short (.scalar (.short n))
  | int (n : Int32) : Admits .int (.scalar (.int n))
  | long (n : Int64) : Admits .long (.scalar (.long n))
  | float (x : Ieee.Single) : Admits .float (.scalar (.float x))
  | double (x : Ieee.Double) : Admits .double (.scalar (.double x))
  | binary (bytes : List UInt8) : Admits .binary (.scalar (.binary bytes))
  | date (days : Int32) : Admits .date (.date days)
  | timestamp (nanos : Int64) : Admits .timestamp (.timestamp nanos)
  | decimal {precision scale : UInt8} {d : Decimal} (scaled : d.scale = scale.toNat)
    (digits : d.precision ≤ precision.toNat) :
    Admits (.decimal precision scale) (.scalar (.decimal d))
  | char {limit : UInt32} {s : BoundedText} (bound : s.limit = limit)
    (length : s.value.length ≤ limit.toNat) : Admits (.char limit) (.char s)
  | varchar {limit : UInt32} {s : BoundedText} (bound : s.limit = limit)
    (length : s.value.length ≤ limit.toNat) : Admits (.varchar limit) (.varchar s)

/-- The value fits a column of the type. -/
inductive Conforms : DataType → Stored → Prop where
  | null (type : DataType) : Conforms type .null
  | scalar {kind : Kind} {value : Stored} (admits : kind.Admits value) :
    Conforms (.primitive kind) value
  | struct {fields : List (Named DataType)} {children : List Stored}
    (size : fields.length = children.length)
    (parts : ∀ p ∈ fields.zip children, Conforms p.1.type p.2) :
    Conforms (.struct fields) (.struct children)
  | list {element : DataType} {items : List Stored} (parts : ∀ item ∈ items, Conforms element item) :
    Conforms (.list element) (.list items)
  | map {key value : DataType} {entries : List (Stored × Stored)}
    (ascending : Entries.Ascending Stored.cmp entries) (keys : ∀ e ∈ entries, Conforms key e.1)
    (values : ∀ e ∈ entries, Conforms value e.2) : Conforms (.map key value) (.map entries)
  | union {variants : List DataType} {tag : UInt8} {variant : DataType} {value : Stored}
    (named : variants[tag.toNat]? = some variant) (notNull : value ≠ .null)
    (part : Conforms variant value) : Conforms (.union variants) (.union tag value)

end ColumnScan
