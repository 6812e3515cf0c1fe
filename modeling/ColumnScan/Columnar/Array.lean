import ColumnScan.Columnar.Check

/-!
# Arrays

How the values of a column are laid out. Scalars stand place by place; the parts of composite values
are moved to arrays of their own, one after the other, so that a place of a list or a map is a stretch
of the array of its parts, and a place of a union is one place of the array of its variant. `ofValues`
lays values out, `datumAt` finds what a place holds.
-/

namespace ColumnScan.Columnar

/-- The values of a column as they are laid out. -/
inductive ArrayData where
  | scalars (entries : List Datum)
  | structs (validity : Option (List Bool)) (columns : List ArrayData)
  | lists (validity : Option (List Bool)) (offsets : List Nat) (items : ArrayData)
  | maps (validity : Option (List Bool)) (offsets : List Nat) (keys values : ArrayData)
  | unions (ids offsets : List Nat) (variants : List ArrayData)
deriving Inhabited

/-- Which places are not null; nothing is noted if no place is. -/
def validity (values : List Stored) : Option (List Bool) :=
  if values.any Stored.isNull then some (values.map fun v => !v.isNull) else none

/-- Whether a place is not null. -/
def isValidAt (validity : Option (List Bool)) (index : Nat) : Bool :=
  match validity with
  | some bits => bits.getD index false
  | none => true

/-- Where the parts of each place begin if those of the first begin at `start`, and where those of the
last place end. -/
def offsetsFrom (start : Nat) : List Nat → List Nat
  | [] => [start]
  | length :: rest => start :: offsetsFrom (start + length) rest

/-- Where the parts of each place begin among all parts, and where those of the last place end. -/
def offsetsOf (lengths : List Nat) : List Nat := offsetsFrom 0 lengths

/-- The places of the parts of a place. -/
def stretch (offsets : List Nat) (index : Nat) : List Nat :=
  List.range' (offsets.getD index 0) (offsets.getD (index + 1) 0 - offsets.getD index 0)

/-- The place of each value among those of its variant. -/
def placesOf (ids : List Nat) : List Nat := ids.zipIdx.map fun (id, index) => (ids.take index).count id

namespace ArrayData

/-! ## Laying out -/

mutual

/-- The values of a column of a type as they are laid out. -/
def ofValues : DataType → List Stored → ArrayData
  | .primitive kind, values => .scalars (values.map fun v => (encodeScalar? kind v).getD .null)
  | .struct fields, values => .structs (validity values) (ofFields 0 fields values)
  | .list element, values =>
    .lists (validity values) (offsetsOf (values.map fun v => (itemsIn v).length))
      (ofValues element (itemsOf values))
  | .map key value, values =>
    .maps (validity values) (offsetsOf (values.map fun v => (entriesIn v).length))
      (ofValues key ((entriesOf values).map (·.1))) (ofValues value ((entriesOf values).map (·.2)))
  | .union variants, values =>
    .unions (values.map fun v => (partOf v).1) (placesOf (values.map fun v => (partOf v).1))
      (ofVariants 0 variants values)

/-- The children of structs, field by field. -/
def ofFields (index : Nat) : List (Named DataType) → List Stored → List ArrayData
  | [], _ => []
  | ⟨_, type⟩ :: rest, values =>
    ofValues type (childrenAt index values) :: ofFields (index + 1) rest values

/-- The values of unions, variant by variant. -/
def ofVariants (index : Nat) : List DataType → List Stored → List ArrayData
  | [], _ => []
  | type :: rest, values =>
    ofValues type (valuesOf index values) :: ofVariants (index + 1) rest values

end

/-! ## Finding -/

mutual

/-- What a place holds. -/
def datumAt : ArrayData → Nat → Datum
  | .scalars entries, index => entries.getD index .null
  | .structs validity columns, index =>
    if isValidAt validity index then .struct (datumsAt columns index) else .null
  | .lists validity offsets items, index =>
    if isValidAt validity index then .list ((stretch offsets index).map fun i => items.datumAt i)
    else .null
  | .maps validity offsets keys values, index =>
    if isValidAt validity index then
      .map ((stretch offsets index).map fun i => (keys.datumAt i, values.datumAt i))
    else .null
  | .unions ids offsets variants, index =>
    .union (ids.getD index 0) (variantAt variants (ids.getD index 0) (offsets.getD index 0))

/-- What a place of each of some arrays holds. -/
def datumsAt : List ArrayData → Nat → List Datum
  | [], _ => []
  | column :: rest, index => column.datumAt index :: datumsAt rest index

/-- What a place of the array of a variant holds. -/
def variantAt : List ArrayData → Nat → Nat → Datum
  | [], _, _ => .null
  | variant :: _, 0, index => variant.datumAt index
  | _ :: rest, id + 1, index => variantAt rest id index

end

/-- What the first places hold. -/
def entries (a : ArrayData) (size : Nat) : List Datum := (List.range size).map a.datumAt

end ArrayData

end ColumnScan.Columnar
