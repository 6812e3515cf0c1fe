import ColumnScan.Proofs.Columnar.Rows
import ColumnScan.Proofs.Row.Recall
import ColumnScan.Proofs.Schema.Lookup

/-!
# Rows filled by name

Writing by name puts a value that the converter of a column stored into the cell of the column, or changes
no cell. So a row that is only written by name has one cell for every column, which is null or holds what
a stock converter of the column stored. Main statements: `set_cells` and `Filled.fits`.
-/

namespace ColumnScan.Row

open Columnar.Batch

/-- A write changes the cell of one column at most, which then holds what its converter stored. -/
theorem set_cells (r : Row) (name : String) (value : Native) :
    ((r.set name value).2.schema = r.schema ∧ (r.set name value).2.factory = r.factory) ∧
    ((r.set name value).2.cells = r.cells ∨ ∃ i field c v, r.schema.field? i = some field ∧
      r.factory.build field.type = .ok c ∧ c.toStored value = .ok v ∧
        (r.set name value).2.cells = r.cells.put i v) := by
  obtain ⟨r', hlike, hset⟩ := set_spec r name value
  rw [hset]
  cases hwritten : (r.accessor name).mapError Error.schema >>= fun a =>
      (a.set r.cells value).mapError Error.convert with
  | error e => exact ⟨⟨hlike.schema, hlike.factory⟩, .inl hlike.cells⟩
  | ok cells =>
    refine ⟨⟨hlike.schema, hlike.factory⟩, ?_⟩
    obtain ⟨a, ha, hcells⟩ := bind_eq_ok_iff.1 hwritten
    have ha := mapError_eq_ok_iff.1 ha
    have hcells := mapError_eq_ok_iff.1 hcells
    rw [accessor, Accessor.find] at ha
    split at ha
    next =>
      cases ha
      cases hcells
      exact .inl rfl
    next i field hfound =>
      obtain ⟨c, hc, rfl⟩ := map_eq_ok_iff.1 ha
      obtain ⟨v, hv, rfl⟩ := map_eq_ok_iff.1 hcells
      exact .inr ⟨i, field, c, v, (StructType.lookupKey?_eq_some hfound).2.1, hc,
        mapError_eq_ok_iff.1 hv, rfl⟩

/-- A new row that was written by name and cleared any number of times. -/
inductive Filled (schema : StructType) : Row → Prop where
  | new : Filled schema (.ofSchema schema .stock)
  | set {r : Row} (name : String) (value : Native) (h : Filled schema r) :
    Filled schema (r.set name value).2
  | clear {r : Row} (h : Filled schema r) : Filled schema r.clear

/-- The row has one cell for every column of the schema, which is null or was stored by a stock
converter. -/
structure FitsSchema (schema : StructType) (r : Row) : Prop where
  sameSchema : r.schema = schema
  factory : r.factory = .stock
  size : r.cells.size = schema.size
  stocked : ∀ i field, schema.field? i = some field → IsStocked field.type (r.cells.getD i)

theorem FitsSchema.nulls {schema : StructType} {r : Row} (hschema : r.schema = schema)
    (hfactory : r.factory = .stock) (hcells : r.cells = .nulls schema.size) : r.FitsSchema schema := by
  refine ⟨hschema, hfactory, ?_, fun i field hfield => .inl ?_⟩
  · rw [hcells]
    exact List.length_replicate
  · obtain ⟨hi, _⟩ := List.getElem?_eq_some_iff.1 hfield
    rw [hcells]
    exact Cells.getD_of_values (List.getElem?_replicate_of_lt hi)

theorem FitsSchema.set {schema : StructType} {r : Row} (h : r.FitsSchema schema) (name : String)
    (value : Native) : (r.set name value).2.FitsSchema schema := by
  obtain ⟨⟨hschema, hfactory⟩, hcells⟩ := set_cells r name value
  have hschema := hschema.trans h.sameSchema
  have hfactory := hfactory.trans h.factory
  obtain hsame | ⟨i, field, c, v, hfield, hc, hv, hput⟩ := hcells
  · exact ⟨hschema, hfactory, hsame ▸ h.size, hsame ▸ h.stocked⟩
  · rw [h.sameSchema] at hfield
    rw [h.factory] at hc
    obtain ⟨hi, _⟩ := List.getElem?_eq_some_iff.1 hfield
    refine ⟨hschema, hfactory, ?_, fun j other hother => ?_⟩
    · rw [hput, Cells.size_put, h.size]
      exact Nat.max_eq_left hi
    · rw [hput]
      by_cases hj : i = j
      · subst hj
        obtain rfl : field = other := Option.some.inj (hfield.symm.trans hother)
        rw [Cells.getD, Cells.get_put_self]
        exact .inr ⟨c, value, hc, hv⟩
      · rw [Cells.getD_put_of_ne r.cells hj]
        exact h.stocked j other hother

theorem FitsSchema.clear {schema : StructType} {r : Row} (h : r.FitsSchema schema) :
    r.clear.FitsSchema schema :=
  .nulls h.sameSchema h.factory (congrArg Cells.nulls h.size)

theorem Filled.fits {schema : StructType} {r : Row} (h : r.Filled schema) : r.FitsSchema schema := by
  induction h with
  | new => exact .nulls rfl rfl rfl
  | set name value _ ih => exact ih.set name value
  | clear _ ih => exact ih.clear

end ColumnScan.Row
