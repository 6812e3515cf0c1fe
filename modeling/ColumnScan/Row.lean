import ColumnScan.Error
import ColumnScan.Row.Accessor

/-!
# Rows

A row is cells under a schema, read and written by name, case aside. What a name means is found out
once and kept as long as the row. Main statement: `resolve_fst`, what is kept is what would be found
anew, so keeping it shows only in the number of names kept and of converters asked for.
-/

namespace ColumnScan

/-- Cells under a schema. -/
structure Row where
  schema : StructType
  factory : ConverterFactory
  cells : Cells
  /-- The identity of the row in a transactional store. -/
  id : Option RecordId := none
  /-- What the lower-case names met so far mean. -/
  known : List (String × Accessor) := []
  /-- The number of types for which a converter was asked. -/
  asked : Nat := 0
  known_found : ∀ p ∈ known, Accessor.find schema factory p.1 = .ok p.2 := by simp

namespace Row

/-- A row of nulls. -/
def ofSchema (schema : StructType) (factory : ConverterFactory) : Row where
  schema := schema
  factory := factory
  cells := .nulls schema.size

/-- The row with other cells. -/
def withCells (r : Row) (cells : Cells) : Row := { r with cells := cells }

/-- The row with another identity. -/
def withId (r : Row) (id : Option RecordId) : Row := { r with id := id }

/-- The row with one more type for which a converter was asked, and the types in it. -/
def ask (r : Row) (key : String) : Row :=
  { r with asked := r.asked + Accessor.steps r.schema r.factory key }

/-- The row that keeps what a lower-case name means. -/
def remember (r : Row) (key : String) (accessor : Accessor)
    (found : Accessor.find r.schema r.factory key = .ok accessor) : Row :=
  { r with
    known := (key, accessor) :: r.known
    known_found := fun p hp => by
      rcases List.mem_cons.1 hp with rfl | hp
      · exact found
      · exact r.known_found p hp }

/-- What a name means; it is kept unless it has no converter. -/
def resolve (r : Row) (name : String) : Except SchemaError Accessor × Row :=
  let key := Text.lowercase name
  match r.known.find? (·.1 == key) with
  | some (_, accessor) => (.ok accessor, r)
  | none =>
    match found : Accessor.find r.schema r.factory key with
    | .ok accessor => (.ok accessor, (r.ask key).remember key accessor found)
    -- A failure is not kept, so the same name fails anew.
    | .error e => (.error e, r.ask key)

theorem resolve_fst (r : Row) (name : String) :
    (r.resolve name).1 = Accessor.find r.schema r.factory (Text.lowercase name) := by
  unfold resolve
  dsimp only
  split
  · next k a hf =>
    have hk := List.find?_some hf
    have ha := r.known_found _ (List.mem_of_find?_eq_some hf)
    simp only [beq_iff_eq] at hk
    rw [← hk, ha]
  · split <;> simp_all

/-- The value of a column on the application's side. -/
def get (r : Row) (name : String) : Except Error Native × Row :=
  match r.resolve name with
  | (.ok accessor, r) => ((accessor.get r.cells).mapError .convert, r)
  | (.error e, r) => (.error (.schema e), r)

/-- The value of a column as it is stored, if the row has the cell. -/
def stored? (r : Row) (name : String) : Except Error (Option Stored) × Row :=
  match r.resolve name with
  | (.ok accessor, r) => (.ok (accessor.stored? r.cells), r)
  | (.error e, r) => (.error (.schema e), r)

/-- Writes a value; the cells stay as they are if that fails. -/
def set (r : Row) (name : String) (value : Native) : Except Error Unit × Row :=
  match r.resolve name with
  | (.ok accessor, r) =>
    match accessor.set r.cells value with
    | .ok cells => (.ok (), r.withCells cells)
    | .error e => (.error (.convert e), r)
  | (.error e, r) => (.error (.schema e), r)

/-- The values of some columns, up to the first failure. -/
def getEach (r : Row) : List String → Except Error (List Native) × Row
  | [] => (.ok [], r)
  | name :: rest =>
    match r.get name with
    | (.error e, r) => (.error e, r)
    | (.ok value, r) =>
      match getEach r rest with
      | (.error e, r) => (.error e, r)
      | (.ok values, r) => (.ok (value :: values), r)

/-- The values of all columns in the order of the schema. -/
def nativeValues (r : Row) : Except Error (List Native) × Row := r.getEach r.schema.names

/-- Null in every cell and no identity. -/
def clear (r : Row) : Row := (r.withCells r.cells.clear).withId none

end Row

end ColumnScan
