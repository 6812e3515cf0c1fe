import ColumnScan.Proofs.Outcome
import ColumnScan.Row

/-!
# What a row remembers

Looking a name up may leave one more name remembered in the row and changes nothing else, and it tells
what looking it up anew would. So reading and writing by name is told by the accessor that is found for
the name in the schema. Main statements: `get_spec`, `stored?_spec` and `set_spec`.
-/

namespace ColumnScan.Row

/-- The rows differ at most in which names were looked up. -/
structure Like (r r' : Row) : Prop where
  schema : r'.schema = r.schema
  factory : r'.factory = r.factory
  cells : r'.cells = r.cells
  id : r'.id = r.id

theorem Like.refl (r : Row) : Like r r := ⟨rfl, rfl, rfl, rfl⟩

theorem Like.trans {r r' r'' : Row} (h : Like r r') (h' : Like r' r'') : Like r r'' :=
  ⟨h'.schema.trans h.schema, h'.factory.trans h.factory, h'.cells.trans h.cells, h'.id.trans h.id⟩

/-- What a name means in a row. -/
def accessor (r : Row) (name : String) : Except SchemaError Accessor :=
  Accessor.find r.schema r.factory (Text.lowercase name)

/-- What is looked up is remembered in the row, so the row that comes back is another one. -/
theorem resolve_spec (r : Row) (name : String) :
    ∃ r', r.resolve name = (r.accessor name, r') ∧ r.Like r' := by
  refine ⟨(r.resolve name).2, Prod.ext (resolve_fst r name) rfl, ?_⟩
  unfold resolve
  dsimp only
  split
  · exact .refl r
  · split <;> exact ⟨rfl, rfl, rfl, rfl⟩

theorem get_spec (r : Row) (name : String) : ∃ r', r.Like r' ∧
    r.get name =
      ((r.accessor name).mapError .schema >>= fun a => (a.get r.cells).mapError .convert, r') := by
  obtain ⟨r', hresolve, hlike⟩ := resolve_spec r name
  refine ⟨r', hlike, ?_⟩
  rw [get, hresolve]
  cases r.accessor name with
  | error e => rfl
  | ok a => rw [← hlike.cells]; rfl

theorem stored?_spec (r : Row) (name : String) : ∃ r', r.Like r' ∧
    r.stored? name =
      ((r.accessor name).mapError .schema >>= fun a => .ok (a.stored? r.cells), r') := by
  obtain ⟨r', hresolve, hlike⟩ := resolve_spec r name
  refine ⟨r', hlike, ?_⟩
  rw [stored?, hresolve]
  cases r.accessor name with
  | error e => rfl
  | ok a => rw [← hlike.cells]; rfl

theorem stored?_of_find {r : Row} {name : String} {a : Accessor}
    (h : Accessor.find r.schema r.factory (Text.lowercase name) = .ok a) :
    ∃ r', r.stored? name = (.ok (a.stored? r.cells), r') ∧ r.Like r' := by
  obtain ⟨r', hlike, hstored⟩ := stored?_spec r name
  refine ⟨r', ?_, hlike⟩
  rw [hstored, accessor, h]
  rfl

theorem set_spec (r : Row) (name : String) (value : Native) : ∃ r', r.Like r' ∧
    r.set name value =
      match (r.accessor name).mapError .schema >>= fun a => (a.set r.cells value).mapError .convert with
      | .ok cells => (.ok (), r'.withCells cells)
      | .error e => (.error e, r') := by
  obtain ⟨r', hresolve, hlike⟩ := resolve_spec r name
  refine ⟨r', hlike, ?_⟩
  rw [set, hresolve]
  cases r.accessor name with
  | error e => rfl
  | ok a =>
    rw [← hlike.cells]
    simp only [Except.mapError, bind, Except.bind]
    cases a.set r'.cells value <;> rfl

end ColumnScan.Row
