/-!
# Types of columns

A type is a scalar kind or built from other types: a struct of named fields, a list, a map or a
union, whose variants are told apart by their position. Types are compared as written, so two
structs whose names differ in case are different types.
-/

namespace ColumnScan

/-- The scalar kinds. -/
inductive Kind where
  | string
  | boolean
  | byte
  | short
  | int
  | long
  | float
  | double
  | timestamp
  | date
  | decimal (precision scale : UInt8)
  | char (limit : UInt32)
  | varchar (limit : UInt32)
  | binary
deriving DecidableEq, Repr

/-- A kind as it is written. -/
def Kind.text : Kind → String
  | .string => "string"
  | .boolean => "boolean"
  | .byte => "tinyint"
  | .short => "smallint"
  | .int => "int"
  | .long => "bigint"
  | .float => "float"
  | .double => "double"
  | .timestamp => "timestamp"
  | .date => "date"
  | .decimal precision scale =>
    "decimal(" ++ toString precision.toNat ++ "," ++ toString scale.toNat ++ ")"
  | .char limit => "char(" ++ toString limit.toNat ++ ")"
  | .varchar limit => "varchar(" ++ toString limit.toNat ++ ")"
  | .binary => "binary"

/-- Something with a name and a type. -/
structure Named (τ : Type) where
  name : String
  type : τ
deriving DecidableEq, Repr

/-- The type of a column. -/
inductive DataType where
  | primitive (kind : Kind)
  | struct (fields : List (Named DataType))
  | list (element : DataType)
  | map (key value : DataType)
  | union (variants : List DataType)
deriving Inhabited

/-- A named field of a struct. -/
abbrev Field := Named DataType

namespace DataType

/-- The scalar kind, if the type is one. -/
def kind? : DataType → Option Kind
  | .primitive kind => some kind
  | _ => none

/-- The fields, if the type is a struct. -/
def fields? : DataType → Option (List Field)
  | .struct fields => some fields
  | _ => none

mutual

/-- A type as it is written. -/
def text : DataType → String
  | .primitive kind => kind.text
  | .struct fields => "struct<" ++ ",".intercalate (textFields fields) ++ ">"
  | .list element => "array<" ++ element.text ++ ">"
  | .map key value => "map<" ++ key.text ++ "," ++ value.text ++ ">"
  | .union variants => "uniontype<" ++ ",".intercalate (textVariants variants) ++ ">"

/-- The variants as they are written. -/
def textVariants : List DataType → List String
  | [] => []
  | variant :: rest => variant.text :: textVariants rest

/-- The fields as they are written, name before type. -/
def textFields : List (Named DataType) → List String
  | [] => []
  | ⟨name, type⟩ :: rest => (name ++ ":" ++ type.text) :: textFields rest

end

/-! ## Equality -/

mutual

/-- Decides whether two types are equal. -/
def equal : (a b : DataType) → Decidable (a = b)
  | .primitive a, .primitive b =>
    if h : a = b then isTrue (by rw [h]) else isFalse (by simpa)
  | .struct a, .struct b =>
    match equalFields a b with
    | isTrue h => isTrue (by rw [h])
    | isFalse h => isFalse (by simpa)
  | .list a, .list b =>
    match equal a b with
    | isTrue h => isTrue (by rw [h])
    | isFalse h => isFalse (by simpa)
  | .map a c, .map b d =>
    match equal a b, equal c d with
    | isTrue h, isTrue h' => isTrue (by rw [h, h'])
    | isFalse h, _ => isFalse (by simp [h])
    | _, isFalse h => isFalse (by simp [h])
  | .union a, .union b =>
    match equalVariants a b with
    | isTrue h => isTrue (by rw [h])
    | isFalse h => isFalse (by simpa)
  | .primitive _, .struct _ | .primitive _, .list _ | .primitive _, .map .. | .primitive _, .union _
  | .struct _, .primitive _ | .struct _, .list _ | .struct _, .map .. | .struct _, .union _
  | .list _, .primitive _ | .list _, .struct _ | .list _, .map .. | .list _, .union _
  | .map .., .primitive _ | .map .., .struct _ | .map .., .list _ | .map .., .union _
  | .union _, .primitive _ | .union _, .struct _ | .union _, .list _ | .union _, .map .. =>
    isFalse (by simp)

/-- Decides whether two lists of types are equal. -/
def equalVariants : (a b : List DataType) → Decidable (a = b)
  | [], [] => isTrue rfl
  | [], _ :: _ => isFalse (by simp)
  | _ :: _, [] => isFalse (by simp)
  | a :: as, b :: bs =>
    match equal a b, equalVariants as bs with
    | isTrue h, isTrue h' => isTrue (by rw [h, h'])
    | isFalse h, _ => isFalse (by simp [h])
    | _, isFalse h => isFalse (by simp [h])

/-- Decides whether two lists of fields are equal. -/
def equalFields : (a b : List (Named DataType)) → Decidable (a = b)
  | [], [] => isTrue rfl
  | [], _ :: _ => isFalse (by simp)
  | _ :: _, [] => isFalse (by simp)
  | ⟨m, a⟩ :: as, ⟨n, b⟩ :: bs =>
    match decEq m n, equal a b, equalFields as bs with
    | isTrue h, isTrue h', isTrue h'' => isTrue (by rw [h, h', h''])
    | isFalse h, _, _ => isFalse (by simp [h])
    | _, isFalse h, _ => isFalse (by simp [h])
    | _, _, isFalse h => isFalse (by simp [h])

end

instance : DecidableEq DataType := equal

end DataType

end ColumnScan
