import ColumnScan.Proofs.Convert.Agreement
import ColumnScan.Proofs.Columnar.Cutting
import ColumnScan.Proofs.Storage.Keeping
import ColumnScan.Proofs.Storage.Sinks

/-!
# Files that were finished

A file of conforming values that was finished opens under the schema it was written with, if that has any
columns, and holds the entries of all rows in their order, from which the values come back. Main
statement: `FileSource.ofImage_of_imageOf`.
-/

namespace ColumnScan

open Columnar

/-- The values of the rows conform to the columns of the schema. -/
def RowsConform (schema : StructType) (rows : List Cells) : Prop :=
  ∀ r ∈ rows, ∀ k field, schema.field? k = some field → Conforms field.type (r.getD k)

variable {schema : StructType} {rows : List Cells}

/-- A file keeps the rows of a batch whose values conform to the columns. -/
theorem FileImage.lays_keepBatch {b : Batch} (valid : schema.validate = .ok ())
    (conforms : RowsConform schema rows) (h : b.Lays schema rows) :
    (keepBatch b).Lays schema rows := by
  refine ⟨h.size, fun k field hfield => ?_⟩
  obtain ⟨array, harray, hcolumn⟩ := h.columns k field hfield
  refine ⟨array, harray, ?_⟩
  have hvalid : field.type.validate = .ok () :=
    DataType.validate_of_validateFields valid field (List.mem_of_getElem? hfield)
  have hkeep : (rows.map fun r => encode field.type (r.getD k)).map (keep array) =
      rows.map fun r => encode field.type (r.getD k) := by
    rw [List.map_map]
    exact List.map_congr_left fun r hr => keep_encode field.type hvalid harray (conforms r hr k field hfield)
  rw [keepBatch, List.getElem?_map, hcolumn]
  simp only [Option.map_some, hkeep]

/-- Conforming values that fit a batch come back from it as they are. -/
theorem Columnar.Batch.returns_of_ofRows {b : Batch} (h : Batch.ofRows schema rows = .ok b)
    (conforms : RowsConform schema rows) : ∀ r ∈ rows, ∀ k field, schema.field? k = some field →
      Returns field.type (r.getD k) (r.getD k) := by
  intro r hr k field hfield
  obtain ⟨_, _, hchecks, _⟩ := ofRows_eq_ok_iff.1 h
  obtain ⟨w, hlands⟩ :=
    (fits_of_check field.type (hchecks k field hfield) (List.mem_map_of_mem hr)).exists_lands
  have hreturns := hlands.returns
  rwa [← hlands.same (conforms r hr k field hfield)] at hreturns

/-- A finished file with columns opens under its schema and holds the rows of all writes. -/
theorem FileSource.ofImage_of_imageOf (valid : schema.validate = .ok ())
    (named : schema.type.WellNamed) (columns : schema.fields ≠ []) {sink : FileSink}
    (hsink : FileSink.create schema = .ok sink) {batchSize : Nat} {image : FileImage}
    (himage : (sink.withBatchSize batchSize).imageOf rows = .ok image)
    (conforms : RowsConform schema rows) :
    ∃ content, ofImage image = .ok { schema := schema, content := content } ∧
      content.Lays schema rows ∧ ∀ r ∈ rows, ∀ k field, schema.field? k = some field →
        Returns field.type (r.getD k) (r.getD k) := by
  obtain ⟨⟨hnew, hopen⟩, hunionFree⟩ := FileSink.holds_of_create hsink batchSize
  obtain ⟨hwritten, hstill, _⟩ := hnew.writes hopen rows
  obtain ⟨closed, hclose, rfl⟩ := FileSink.close_of_imageOf himage
  obtain ⟨⟨hschema, hslots, chunks, hrows, hchunks⟩, hpending, hclosed⟩ := hwritten.close hstill hclose
  rw [hpending, List.append_nil, List.nil_append] at hrows
  subst hrows
  have hsub : ∀ chunk ∈ chunks, RowsConform schema chunk := fun chunk hchunk r hr =>
    conforms r (List.mem_flatten_of_mem hchunk hr)
  have hlays : List.Forall₂ (fun rows b => b.Lays schema rows) chunks closed.batches := by
    refine List.forall₂_iff_zip.2 ⟨hchunks.length_eq, fun {chunk batch} hmem => ?_⟩
    obtain ⟨b, hb, rfl⟩ := List.forall₂_zip hchunks hmem
    exact FileImage.lays_keepBatch valid (hsub chunk (List.of_mem_zip hmem).1) (Batch.lays_of_ofRows hb)
  have himage : closed.image = .table closed.slots closed.batches := by
    have hslot : closed.slots ≠ [] := by
      intro hnone
      have hlength := (layout_of_layoutFields hslots).length_eq
      rw [hnone] at hlength
      exact columns (List.length_eq_zero_iff.1 hlength)
    rw [FileSink.image, hclosed, if_neg (by simpa using hslot)]
  refine ⟨.join (closed.slots.map (·.type)) closed.batches, ?_, Batch.Lays.join hslots hlays, ?_⟩
  · rw [himage, ofImage, FileImage.schemaOf_reopenSlots valid named hunionFree hslots]
    rfl
  · intro r hr
    obtain ⟨chunk, hchunk, hr⟩ := List.mem_flatten.1 hr
    obtain ⟨b, _, b', hb', _⟩ := exists_mem_of_forall₂ hchunks chunk hchunk
    exact Batch.returns_of_ofRows hb' (hsub chunk hchunk) r hr

end ColumnScan
