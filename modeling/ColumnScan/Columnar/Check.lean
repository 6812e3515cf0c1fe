import ColumnScan.Columnar.Datum

/-!
# Which values fit a column

A column takes values only if every one of them, and every value inside them, has the form that its
type asks for. The whole column is looked at before the parts of its values, and those part by part
over all values, each part under a path of its own: `.name` for the field of a struct, `[]` for the
items of a list, `.key` and `.value` for the entries of a map, `<0>` for a variant of a union. The
first misfit in that order is reported; so is the first value of a union for which the array of its
variant has no place left.
-/

namespace ColumnScan.Columnar

/-- Reports the first of some values that is bad. -/
def refuseFirst (path : String) (type : DataType) (bad : Stored → Bool) (values : List Stored) :
    Except StorageError Unit :=
  match values.find? bad with
  | some v => .error (.invalidValue path type v.kindName)
  | none => .ok ()

/-- A value that a column of this kind has no entry for. -/
def isMisfit (kind : Kind) (value : Stored) : Bool :=
  !value.isNull && (encodeScalar? kind value).isNone

/-- Whether an array of decimals can have these parameters; the scale has eight signed bits there. -/
def areArrayParameters (precision scale : UInt8) : Bool :=
  decide (0 < precision.toNat) && decide (precision.toNat ≤ maxPrecision) &&
    decide (scale.toInt8.toInt ≤ Decimal.maxScale) &&
    (decide (scale.toInt8.toInt ≤ 0) || decide (scale.toNat ≤ precision.toNat))

/-- Whether an array of a scalar kind can be made. -/
def isArrayKind : Kind → Bool
  | .decimal precision scale => areArrayParameters precision scale
  | _ => true

/-- Neither null nor a struct. -/
def isNoStruct : Stored → Bool
  | .null | .struct _ => false
  | _ => true

/-- Neither null nor a list. -/
def isNoList : Stored → Bool
  | .null | .list _ => false
  | _ => true

/-- Neither null nor a union of one of so many variants; without variants there is no null. -/
def isNoVariant (variants : Nat) : Stored → Bool
  | .null => variants == 0
  | .union tag _ => decide (variants ≤ tag.toNat)
  | _ => true

/-- The child of a struct at a position, null if there is none. -/
def childAt (index : Nat) : Stored → Stored
  | .struct children => children[index]?.getD .null
  | _ => .null

/-- The items of a list. -/
def itemsIn : Stored → List Stored
  | .list items => items
  | _ => []

/-- The entries of a map. -/
def entriesIn : Stored → List (Stored × Stored)
  | .map entries => entries
  | _ => []

/-- The variant of a union and the value in it; null is a null of the first variant. -/
def partOf : Stored → Nat × Stored
  | .union tag value => (tag.toNat, value)
  | _ => (0, .null)

/-- The children of structs at a position. -/
def childrenAt (index : Nat) (values : List Stored) : List Stored := values.map (childAt index)

/-- The items of all lists. -/
def itemsOf (values : List Stored) : List Stored := values.flatMap itemsIn

/-- The entries of all maps. -/
def entriesOf (values : List Stored) : List (Stored × Stored) := values.flatMap entriesIn

/-- The values of all unions of a variant. -/
def valuesOf (index : Nat) (values : List Stored) : List Stored :=
  (values.map partOf).filterMap fun part => if part.1 = index then some part.2 else none

theorem length_valuesOf (index : Nat) (values : List Stored) :
    (valuesOf index values).length = (values.map fun v => (partOf v).1).count index := by
  induction values with
  | nil => rfl
  | cons v values ih =>
    rw [List.map_cons, List.count_cons, ← ih, valuesOf, valuesOf, List.map_cons, List.filterMap_cons]
    by_cases h : (partOf v).1 = index
    · rw [if_pos h, if_pos (beq_iff_eq.2 h)]
      rfl
    · rw [if_neg h, if_neg (mt beq_iff_eq.1 h)]
      rfl

/-- Looks for a value that is not a map and for a key that is null, whichever comes first. -/
def checkMaps (path : String) (key : DataType) (type : DataType) :
    List Stored → Except StorageError Unit
  | [] => .ok ()
  | .null :: rest => checkMaps path key type rest
  | .map entries :: rest => do
    refuseFirst (path ++ ".key") key Stored.isNull (entries.map (·.1))
    checkMaps path key type rest
  | other :: _ => .error (.invalidValue path type other.kindName)

/-- Looks for a value that is no union of a variant and for one whose variant has no place left for it,
whichever comes first; `taken` are the variants of the values before. -/
def checkUnions (path : String) (variants : List DataType) (taken : List Nat) :
    List Stored → Except StorageError Unit
  | [] => .ok ()
  | v :: rest =>
    if isNoVariant variants.length v then
      .error (.invalidValue path (.union variants) v.kindName)
    else if maxVariantValues ≤ taken.count (partOf v).1 then
      .error (.unsupported (.variantValues path))
    else checkUnions path variants ((partOf v).1 :: taken) rest

/-- Whether a key is a null inside a union. -/
def isHollow : Stored → Bool
  | .null => true
  | .union _ value => isHollow value
  | _ => false

mutual

/-- Checks that values fit a column of a type. -/
def check (path : String) (values : List Stored) : DataType → Except StorageError Unit
  | .primitive kind => do
    refuseFirst path (.primitive kind) (isMisfit kind) values
    if !isArrayKind kind then .error .array
  | .struct fields => do
    if fields.isEmpty then .error (.unsupported (.emptyStruct path))
    refuseFirst path (.struct fields) isNoStruct values
    checkFields path values 0 fields
  | .list element => do
    refuseFirst path (.list element) isNoList values
    check (path ++ "[]") (itemsOf values) element
  | .map key value => do
    checkMaps path key (.map key value) values
    check (path ++ ".key") ((entriesOf values).map (·.1)) key
    check (path ++ ".value") ((entriesOf values).map (·.2)) value
    -- A null inside a union passes as a key until the array is made.
    if (entriesOf values).any (isHollow ·.1) then .error .array
  | .union variants => do
    checkUnions path variants [] values
    checkVariantValues path values 0 variants
    if variants.length = maxArrayVariants then .error .array

/-- Checks the children of structs field by field. -/
def checkFields (path : String) (values : List Stored) (index : Nat) :
    List (Named DataType) → Except StorageError Unit
  | [] => .ok ()
  | ⟨name, type⟩ :: rest => do
    check (path ++ "." ++ name) (childrenAt index values) type
    checkFields path values (index + 1) rest

/-- Checks the values of unions variant by variant. -/
def checkVariantValues (path : String) (values : List Stored) (index : Nat) :
    List DataType → Except StorageError Unit
  | [] => .ok ()
  | type :: rest => do
    check (path ++ "<" ++ toString index ++ ">") (valuesOf index values) type
    checkVariantValues path values (index + 1) rest

end

end ColumnScan.Columnar
