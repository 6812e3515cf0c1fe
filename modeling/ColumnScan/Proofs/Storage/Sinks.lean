import ColumnScan.Proofs.Columnar.Rows
import ColumnScan.Storage.File

/-!
# Files being written

Every row that is written to a file is in its batches or pending, in the order of writing, however large
the batches are. A row is pending before it is looked at: if the pending rows do not fit the columns, the
write fails and they stay, so that every later write fails as well and the file is never finished. A file
that was finished holds the rows of all writes, none of which had failed. Main statement:
`FileSink.writes_of_create`.
-/

namespace ColumnScan

open Columnar

/-- Fewer rows fit whenever more do. -/
theorem Columnar.Batch.exists_ofRows_of_sublist {schema : StructType} {rows rows' : List Cells}
    {b : Batch} (h : Batch.ofRows schema rows = .ok b) (hsub : rows'.Sublist rows) :
    ∃ b', Batch.ofRows schema rows' = .ok b' := by
  obtain ⟨slots, hslots, hchecks, _⟩ := ofRows_eq_ok_iff.1 h
  refine ⟨_, ofRows_eq_ok_iff.2 ⟨slots, hslots, fun k field hfield => ?_, rfl⟩⟩
  have hcheck := hchecks k field hfield
  refine check_of_fits field.type hcheck (List.forall_mem_map.2 fun r hr => ?_)
    ((roomy_of_check field.type hcheck).of_sublist (hsub.map _))
  exact fits_of_check field.type hcheck (List.mem_map_of_mem (hsub.subset hr))

namespace FileSink

/-- Writes rows one after the other, whatever becomes of them: what each write answers, and the file that
is left. -/
def writes (s : FileSink) : List Cells → List (Except StorageError Unit) × FileSink
  | [] => ([], s)
  | row :: rest => ((s.write row).1 :: ((s.write row).2.writes rest).1, ((s.write row).2.writes rest).2)

/-- The file keeps a batch of these rows. -/
def Keeps (schema : StructType) (rows : List Cells) (kept : Batch) : Prop :=
  ∃ b, Batch.ofRows schema rows = .ok b ∧ kept = FileImage.keepBatch b

/-- The rows are in the batches of the file or pending. -/
structure Holds (schema : StructType) (rows : List Cells) (s : FileSink) : Prop where
  sameSchema : s.schema = schema
  layout : layoutSchema schema = .ok s.slots
  rows : ∃ chunks : List (List Cells), chunks.flatten ++ s.pending = rows ∧
    List.Forall₂ (Keeps schema) chunks s.batches

variable {schema : StructType} {rows : List Cells} {row : Cells} {s : FileSink}

/-! ## One call -/

/-- The file with one more row pending. -/
def grown (s : FileSink) (row : Cells) : FileSink := { s with pending := s.pending ++ [row] }

/-- The file with one more batch and no row pending. -/
def flushed (s : FileSink) (b : Batch) : FileSink :=
  { s with pending := [], batches := s.batches ++ [FileImage.keepBatch b] }

theorem flush_of_isEmpty (h : s.pending = []) : s.flush = .ok s := by
  rw [flush, h]
  rfl

theorem flush_of_open (hsome : s.pending ≠ []) (hopen : s.isOpen = true) :
    s.flush = (Batch.ofRows s.schema s.pending).map s.flushed := by
  rw [flush, if_neg (by simpa using hsome), if_neg (by simp [hopen])]
  cases Batch.ofRows s.schema s.pending <;> rfl

/-- What a write to an open file does. -/
theorem write_cases (hopen : s.isOpen = true) (row : Cells) :
    ((s.pending ++ [row]).length < s.batchSize ∧ s.write row = (.ok (), s.grown row)) ∨
    (∃ b, Batch.ofRows s.schema (s.pending ++ [row]) = .ok b ∧
      s.write row = (.ok (), (s.grown row).flushed b)) ∨
    ∃ e, s.batchSize ≤ (s.pending ++ [row]).length ∧
      Batch.ofRows s.schema (s.pending ++ [row]) = .error e ∧ s.write row = (.error e, s.grown row) := by
  have hflush : (s.grown row).flush =
      (Batch.ofRows s.schema (s.pending ++ [row])).map (s.grown row).flushed :=
    flush_of_open (List.append_ne_nil_of_right_ne_nil _ (List.cons_ne_nil row [])) hopen
  rw [grown] at hflush
  rw [write, if_neg (by simp [hopen])]
  by_cases hroom : (s.pending ++ [row]).length < s.batchSize
  · exact .inl ⟨hroom, if_pos hroom⟩
  · rw [if_neg hroom, hflush]
    cases hbatch : Batch.ofRows s.schema (s.pending ++ [row]) with
    | ok b => exact .inr (.inl ⟨b, rfl, rfl⟩)
    | error e => exact .inr (.inr ⟨e, Nat.le_of_not_lt hroom, rfl, rfl⟩)

theorem write_of_closed (h : s.isOpen = false) (row : Cells) : s.write row = (.error .closed, s) := by
  rw [write, h]
  rfl

theorem Holds.grown (h : s.Holds schema rows) (row : Cells) :
    (s.grown row).Holds schema (rows ++ [row]) := by
  obtain ⟨hschema, hslots, chunks, rfl, hchunks⟩ := h
  exact ⟨hschema, hslots, chunks, (List.append_assoc ..).symm, hchunks⟩

theorem Holds.flushed (h : s.Holds schema rows) {b : Batch}
    (hb : Batch.ofRows s.schema s.pending = .ok b) : (s.flushed b).Holds schema rows := by
  obtain ⟨rfl, hslots, chunks, rfl, hchunks⟩ := h
  refine ⟨rfl, hslots, chunks ++ [s.pending], ?_, List.rel_append hchunks (.cons ⟨b, hb, rfl⟩ .nil)⟩
  rw [List.flatten_append, List.flatten_singleton]
  exact List.append_nil _

/-- A write to an open file adds the row to those in the file, whether it fails or not. -/
theorem Holds.write (h : s.Holds schema rows) (hopen : s.isOpen = true) (row : Cells) :
    (s.write row).2.Holds schema (rows ++ [row]) ∧ (s.write row).2.isOpen = true := by
  obtain ⟨_, hwrite⟩ | ⟨b, hb, hwrite⟩ | ⟨e, _, _, hwrite⟩ := write_cases hopen row
  · rw [hwrite]
    exact ⟨h.grown row, hopen⟩
  · rw [hwrite]
    exact ⟨(h.grown row).flushed hb, hopen⟩
  · rw [hwrite]
    exact ⟨h.grown row, hopen⟩

/-- Finishing a file puts the pending rows into it. -/
theorem Holds.close (h : s.Holds schema rows) {closed : FileSink} (hopen : s.isOpen = true)
    (hclose : s.close = (.ok (), closed)) :
    closed.Holds schema rows ∧ closed.pending = [] ∧ closed.isOpen = false := by
  rw [FileSink.close] at hclose
  by_cases hsome : s.pending = []
  · rw [flush_of_isEmpty hsome] at hclose
    cases hclose
    exact ⟨⟨h.sameSchema, h.layout, h.rows⟩, hsome, rfl⟩
  · rw [flush_of_open hsome hopen] at hclose
    cases hb : Batch.ofRows s.schema s.pending with
    | error e =>
      rw [hb] at hclose
      cases hclose
    | ok b =>
      rw [hb] at hclose
      cases hclose
      have hflushed := h.flushed hb
      exact ⟨⟨hflushed.sameSchema, hflushed.layout, hflushed.rows⟩, rfl, rfl⟩

/-! ## Files that are never finished -/

/-- The pending rows are enough for a batch and cannot be put into the file, alone or with more. -/
structure Stuck (s : FileSink) : Prop where
  isOpen : s.isOpen = true
  some : s.pending ≠ []
  full : s.batchSize ≤ s.pending.length
  refused : ∀ more b, Batch.ofRows s.schema (s.pending ++ more) ≠ .ok b

theorem stuck_of_write_error (hopen : s.isOpen = true) {e : StorageError} {s' : FileSink}
    (h : s.write row = (.error e, s')) : s' = s.grown row ∧ s'.Stuck := by
  obtain ⟨_, hwrite⟩ | ⟨b, _, hwrite⟩ | ⟨e', hfull, he, hwrite⟩ := write_cases hopen row
  · rw [hwrite] at h
    cases h
  · rw [hwrite] at h
    cases h
  · rw [hwrite] at h
    cases h
    refine ⟨rfl, hopen, List.append_ne_nil_of_right_ne_nil _ (List.cons_ne_nil row []), hfull, ?_⟩
    intro more b hb
    obtain ⟨b', hb'⟩ := Batch.exists_ofRows_of_sublist hb (List.sublist_append_left _ more)
    exact absurd (he.symm.trans hb') nofun

theorem Stuck.write (h : s.Stuck) (row : Cells) :
    (∃ e, (s.write row).1 = .error e) ∧ (s.write row).2.Stuck := by
  obtain ⟨hroom, _⟩ | ⟨b, hb, _⟩ | ⟨e, _, _, hwrite⟩ := write_cases h.isOpen row
  · have hfull := h.full
    rw [List.length_append, List.length_singleton] at hroom
    omega
  · exact absurd hb (h.refused [row] b)
  · rw [hwrite]
    exact ⟨⟨e, rfl⟩, (stuck_of_write_error h.isOpen hwrite).2⟩

theorem Stuck.close (h : s.Stuck) : ∃ e, s.close = (.error e, s) := by
  rw [FileSink.close, flush_of_open h.some h.isOpen]
  cases hb : Batch.ofRows s.schema s.pending with
  | error e => exact ⟨e, rfl⟩
  | ok b => exact absurd ((congrArg _ (List.append_nil _)).trans hb) (h.refused [] b)

theorem Stuck.writes (h : s.Stuck) (rows : List Cells) :
    (∀ answer ∈ (s.writes rows).1, ∃ e, answer = .error e) ∧ (s.writes rows).2.Stuck := by
  induction rows generalizing s with
  | nil => exact ⟨nofun, h⟩
  | cons row rest ih =>
    obtain ⟨hfirst, hleft⟩ := h.write row
    obtain ⟨hrest, hleft⟩ := ih hleft
    exact ⟨List.forall_mem_cons.2 ⟨hfirst, hrest⟩, hleft⟩

/-! ## All calls -/

/-- Rows that are written to an open file are in it, and if a write fails the file is never finished. -/
theorem Holds.writes {before : List Cells} (h : s.Holds schema before) (hopen : s.isOpen = true)
    (rows : List Cells) :
    (s.writes rows).2.Holds schema (before ++ rows) ∧ (s.writes rows).2.isOpen = true ∧
      ((∀ answer ∈ (s.writes rows).1, answer = .ok ()) ∨ (s.writes rows).2.Stuck) := by
  induction rows generalizing s before with
  | nil =>
    refine ⟨?_, hopen, .inl nofun⟩
    rw [List.append_nil]
    exact h
  | cons row rest ih =>
    obtain ⟨hrow, hopen'⟩ := h.write hopen row
    obtain ⟨hrest, hleft, hanswers⟩ := ih hrow hopen'
    rw [List.append_assoc] at hrest
    refine ⟨hrest, hleft, ?_⟩
    cases hwrite : s.write row with
    | mk answer s' =>
      cases answer with
      | error e =>
        have hstuck := ((stuck_of_write_error hopen hwrite).2.writes rest).2
        rw [FileSink.writes, hwrite]
        exact .inr hstuck
      | ok =>
        rw [hwrite] at hanswers
        rw [FileSink.writes, hwrite]
        exact hanswers.imp_left fun hrest => List.forall_mem_cons.2 ⟨rfl, hrest⟩

theorem holds_of_create {sink : FileSink} (h : create schema = .ok sink) (batchSize : Nat) :
    ((sink.withBatchSize batchSize).Holds schema [] ∧
      (sink.withBatchSize batchSize).isOpen = true) ∧
      ∀ field ∈ schema.fields, field.type.hasUnion = false := by
  rw [create] at h
  split at h
  · cases h
  next hnone =>
    obtain ⟨slots, hslots, h⟩ := bind_eq_ok_iff.1 h
    split at h
    · cases h
    · cases h
      exact ⟨⟨⟨rfl, hslots, [], rfl, .nil⟩, rfl⟩, fun field hfield =>
        Bool.eq_false_iff.2 (List.find?_eq_none.1 hnone field hfield)⟩

/-- What is found of a file whose writes and whose end succeeded. -/
theorem close_of_imageOf {image : FileImage} (h : s.imageOf rows = .ok image) :
    ∃ closed, (s.writes rows).2.close = (.ok (), closed) ∧ image = closed.image := by
  induction rows generalizing s with
  | nil =>
    rw [imageOf] at h
    split at h
    next closed hclose =>
      cases h
      exact ⟨closed, hclose, rfl⟩
    · cases h
  | cons row rest ih =>
    rw [imageOf] at h
    split at h
    next s' hwrite =>
      rw [writes, hwrite]
      exact ih h
    · cases h

/-- A write that fails leaves its row pending, and from then on no write succeeds and the file is not
finished. A file that is finished holds the rows of all writes in their order, none of which had failed,
and is not written to any more. -/
theorem writes_of_create {sink : FileSink} (h : create schema = .ok sink) (batchSize : Nat)
    (rows : List Cells) :
    (∀ row e s', ((sink.withBatchSize batchSize).writes rows).2.write row = (.error e, s') →
      s' = ((sink.withBatchSize batchSize).writes rows).2.grown row ∧
        ∀ more, (∀ answer ∈ (s'.writes more).1, ∃ e, answer = .error e) ∧
          ∃ e, (s'.writes more).2.close = (.error e, (s'.writes more).2)) ∧
    ∀ closed, ((sink.withBatchSize batchSize).writes rows).2.close = (.ok (), closed) →
      (∀ answer ∈ ((sink.withBatchSize batchSize).writes rows).1, answer = .ok ()) ∧
        closed.Holds schema rows ∧ closed.pending = [] ∧
        ∀ row, closed.write row = (.error .closed, closed) := by
  obtain ⟨⟨hempty, hnew⟩, _⟩ := holds_of_create h batchSize
  obtain ⟨hholds, hopen, hanswers⟩ := hempty.writes hnew rows
  rw [List.nil_append] at hholds
  constructor
  · intro row e s' hwrite
    obtain ⟨rfl, hstuck⟩ := stuck_of_write_error hopen hwrite
    exact ⟨rfl, fun more => ⟨(hstuck.writes more).1, (hstuck.writes more).2.close⟩⟩
  · intro closed hclose
    obtain ⟨hclosed, hpending, hshut⟩ := hholds.close hopen hclose
    refine ⟨hanswers.resolve_right fun hstuck => ?_, hclosed, hpending, write_of_closed hshut⟩
    obtain ⟨e, he⟩ := hstuck.close
    exact absurd (he.symm.trans hclose) nofun

/-- A column of large numbers. -/
def counts : StructType := ⟨[⟨"n", .primitive .long⟩], by decide +kernel⟩

/-- A row that has a number. -/
def count : Cells := ⟨[.scalar (.long 5)]⟩

/-- A row that has a text in the place of the number. -/
def miscount : Cells := ⟨[.scalar (.string "oops")]⟩

theorem writes_of_create_miscount :
    ∃ sink e, create counts = .ok sink ∧ (sink.withBatchSize 0).write miscount =
        (.error e, (sink.withBatchSize 0).grown miscount) ∧
      (∃ e, (((sink.withBatchSize 0).grown miscount).write count).1 = .error e) ∧
      ∀ closed, ((sink.withBatchSize 0).writes [count, count]).2.close = (.ok (), closed) →
        closed.Holds counts [count, count] := by
  obtain ⟨sink, hsink⟩ : ∃ sink, create counts = .ok sink := ⟨_, rfl⟩
  obtain ⟨e, he⟩ : ∃ e, (sink.withBatchSize 0).write miscount =
      (.error e, (sink.withBatchSize 0).grown miscount) := by
    cases hsink
    exact ⟨_, rfl⟩
  obtain ⟨_, hstuck⟩ := (writes_of_create hsink 0 []).1 miscount e _ he
  refine ⟨sink, e, hsink, he, ?_, fun closed hclose => ?_⟩
  · exact (hstuck [count]).1 _ List.mem_cons_self
  · exact ((writes_of_create hsink 0 [count, count]).2 closed hclose).2.1

/-- A write that fails makes a later one fail that would not have failed without it. -/
theorem write_refuses_count : ∃ sink, create counts = .ok sink ∧
    ((sink.withBatchSize 1).write count).1 = .ok () ∧
    (∃ e, ((sink.withBatchSize 1).write miscount).1 = .error e) ∧
    ((sink.withBatchSize 1).write miscount).2.pending = [miscount] ∧
    ∃ e, (((sink.withBatchSize 1).write miscount).2.write count).1 = .error e :=
  ⟨_, rfl, rfl, ⟨_, rfl⟩, rfl, ⟨_, rfl⟩⟩

end FileSink

end ColumnScan
