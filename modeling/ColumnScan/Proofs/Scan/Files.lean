import ColumnScan.Proofs.Row.Filling
import ColumnScan.Proofs.Scan.Envelopes
import ColumnScan.Proofs.Storage.Files
import ColumnScan.Proofs.Storage.Sources

/-!
# Scans of files

A scan of a file sees what a scan of the rows in memory would see, in batches of whatever size the rows
were written and are fetched: it opens or is refused alike, and call by call it gives the same answer, the
same row and the same counts, also where a filter leaves rows out or fails. Main statement:
`ScanConfig.openOver_file`.
-/

namespace ColumnScan

/-! ## Readers of the same rows -/

namespace RecordReader

/-- A call gave what another one gave. -/
structure SameReading (x y : Except Error Bool × RecordReader × Row) : Prop where
  answer : y.1 = x.1
  row : y.2.2 = x.2.2
  read : y.2.1.read = x.2.1.read
  skipped : y.2.1.skipped = x.2.1.skipped

/-- The readers are at the same point, with sources that hand out the same rows. -/
structure Alike (x y : RecordReader) : Prop where
  isDone : y.isDone = x.isDone
  filter : y.filter = x.filter
  read : y.read = x.read
  skipped : y.skipped = x.skipped
  noIds : x.source.isTransactional = false ∧ y.source.isTransactional = false
  rows : x.isDone = false → ∃ rows, x.source.HandsOut rows ∧ y.source.HandsOut rows

theorem rowId_of_noIds {r : RecordReader} (h : r.source.isTransactional = false) : r.rowId = none := by
  rw [rowId, h, Bool.and_false]
  rfl

theorem noIds_next {s t : RowSource} {answer : Fetched} (h : s.isTransactional = false)
    (hnext : s.next = (answer, t)) : t.isTransactional = false := by
  have hsame := s.isTransactional_next
  rw [hnext, h] at hsame
  exact hsame

/-- One call leaves readers of the same rows at the same point. -/
theorem Alike.next {x y : RecordReader} (h : Alike x y) (row : Row) :
    SameReading (x.next row) (y.next row) ∧ Alike (x.next row).2.1 (y.next row).2.1 := by
  by_cases hdone : x.isDone = true
  · rw [next_of_done hdone, next_of_done (h.isDone.trans hdone)]
    exact ⟨⟨rfl, rfl, h.read, h.skipped⟩, h⟩
  replace hdone := Bool.eq_false_iff.2 hdone
  obtain ⟨rows, hx, hy⟩ := h.rows hdone
  -- A row that is left out calls for one more turn of the same call, with one row less to go.
  induction rows generalizing x y row with
  | nil =>
    cases hx with | @nil _ s hx => ?_
    cases hy with | @nil _ t hy => ?_
    rw [next_of_exhausted hdone hx, next_of_exhausted (h.isDone.trans hdone) hy]
    exact ⟨⟨rfl, rfl, h.read, h.skipped⟩, { h with
      isDone := rfl, noIds := ⟨noIds_next h.noIds.1 hx, noIds_next h.noIds.2 hy⟩, rows := nofun }⟩
  | cons cells rest ih =>
    cases hx with | @cons _ s _ _ hx hxrest => ?_
    cases hy with | @cons _ t _ _ hy hyrest => ?_
    have hdone' := h.isDone.trans hdone
    have hnoIds := And.intro (noIds_next h.noIds.1 hx) (noIds_next h.noIds.2 hy)
    obtain ⟨⟨result, row'⟩, haccept⟩ : ∃ z, x.filter.accept (row.withCells cells) = z := ⟨_, rfl⟩
    have haccept' : y.filter.accept (row.withCells cells) = (result, row') := by
      rw [h.filter]
      exact haccept
    match result with
    | .error failure =>
      rw [next_of_error hdone hx haccept, next_of_error hdone' hy haccept']
      exact ⟨⟨rfl, rfl, h.read, h.skipped⟩,
        { h with noIds := hnoIds, rows := fun _ => ⟨rest, hxrest, hyrest⟩ }⟩
    | .ok false =>
      rw [next_of_reject hdone hx haccept, next_of_reject hdone' hy haccept']
      refine ih ?_ row' hdone hxrest hyrest
      exact { h with
        skipped := congrArg (· + 1) h.skipped, noIds := hnoIds,
        rows := fun _ => ⟨rest, hxrest, hyrest⟩ }
    | .ok true =>
      rw [next_of_accept hdone hx haccept, next_of_accept hdone' hy haccept']
      have hread : y.read + 1 = x.read + 1 := congrArg (· + 1) h.read
      refine ⟨⟨rfl, ?_, hread, h.skipped⟩,
        { h with read := hread, noIds := hnoIds, rows := fun _ => ⟨rest, hxrest, hyrest⟩ }⟩
      rw [rowId_of_noIds hnoIds.2, rowId_of_noIds hnoIds.1]

theorem Alike.forall₂_calls {x y : RecordReader} (h : Alike x y) (row : Row) (n : Nat) :
    List.Forall₂ SameReading (x.calls row n) (y.calls row n) := by
  induction n generalizing x y row with
  | zero => exact .nil
  | succ n ih =>
    obtain ⟨hsame, hnext⟩ := h.next row
    refine .cons hsame ?_
    rw [hsame.row]
    exact ih hnext _

/-! ## The end of the rows -/

theorem calls_of_done {r : RecordReader} (h : r.isDone = true) (row : Row) (n : Nat) :
    r.calls row n = List.replicate n (.ok false, r, row) := by
  induction n with
  | zero => rfl
  | succ n ih => rw [calls, next_of_done h, ih, List.replicate_succ]

/-- Once a call has said that there are no more rows, so does every later one, and nothing changes. -/
theorem calls_after_end (r : RecordReader) (row : Row) (n : Nat) :
    (r.calls row n).Pairwise fun x y => x.1 = .ok false → y = x := by
  induction n generalizing r row with
  | zero => exact .nil
  | succ n ih =>
    refine .cons (fun y hy hend => ?_) (ih _ _)
    rw [calls_of_done (isDone_of_next hend)] at hy
    rw [List.eq_of_mem_replicate hy]
    exact Prod.ext hend.symm rfl

end RecordReader

/-! ## Opening -/

namespace ScanPlan

variable {p : ScanPlan} {schema : StructType} {rows : List Cells}

/-- Over a source that is read as it is, a plan settles what to read in the schema of the source. -/
theorem openOver_of_plain (hplain : p.config.transactional = false) {source : RowSource}
    (hschema : source.schema = schema) (choose : List Nat → RowSource)
    (hproject : ∀ ordinals, source.project ordinals = .ok (choose ordinals)) :
    p.openOver source =
      (p.settle schema).map fun settled => p.reader (choose settled.1) settled.2 := by
  have hunwrap : p.unwrap source = .ok source := by
    rw [unwrap, hplain]
    rfl
  exact openOver_eq hunwrap hschema choose hproject

theorem openOver_ofRows (hplain : p.config.transactional = false) (schema : StructType)
    (rows : List Cells) :
    p.openOver (.memory (.ofRows schema rows)) =
      (p.settle schema).map fun settled =>
        p.reader (.memory ((MemorySource.ofRows schema rows).project settled.1)) settled.2 :=
  openOver_of_plain hplain rfl
    (fun ordinals => .memory ((MemorySource.ofRows schema rows).project ordinals)) fun _ => rfl

/-- A file from which nothing was read yet. -/
def freshFile (schema : StructType) (content : Columnar.Batch) (batchSize : Nat) : FileSource :=
  { schema := schema, content := content, batchSize := batchSize }

theorem openOver_freshFile (hplain : p.config.transactional = false) (schema : StructType)
    (content : Columnar.Batch) (batchSize : Nat) :
    p.openOver (.file (freshFile schema content batchSize)) =
      (p.settle schema).map fun settled =>
        p.reader (.file { freshFile schema content batchSize with projection := some settled.1 })
          settled.2 :=
  openOver_of_plain hplain rfl
    (fun ordinals => .file { freshFile schema content batchSize with projection := some ordinals })
    fun _ => rfl

/-- Readers of a file and of memory with the same rows are at the same point. -/
theorem alike_reader {content : Columnar.Batch} {batchSize : Nat} (hsize : 0 < batchSize)
    (hcontent : content.Lays schema rows)
    (returns : ∀ r ∈ rows, ∀ k field, schema.field? k = some field →
      Columnar.Returns field.type (r.getD k) (r.getD k)) (ordinals : List Nat) (filter : RowFilter) :
    RecordReader.Alike (p.reader (.memory ((MemorySource.ofRows schema rows).project ordinals)) filter)
      (p.reader (.file { freshFile schema content batchSize with projection := some ordinals })
        filter) where
  isDone := rfl
  filter := rfl
  read := rfl
  skipped := rfl
  noIds := ⟨rfl, rfl⟩
  rows _ := by
    have hmemory := RowSource.handsOut_memory ((MemorySource.ofRows schema rows).project ordinals)
    rw [MemorySource.project, MemorySource.ofRows, List.map_map] at hmemory
    have hfile : (RowSource.file
        { freshFile schema content batchSize with projection := some ordinals }).HandsOut
          (rows.map fun r => .project (isWanted (some ordinals)) schema.size r.values) :=
      FileSource.handsOut_file rfl rfl hsize hcontent returns
    exact ⟨_, hmemory, hfile⟩

end ScanPlan

namespace ScanConfig

/-- Rows filled by name under a valid schema with columns, written to a file that was finished, are
scanned as they are in memory, whatever the sizes of the batches: the scan opens or is refused alike, and
then every call over the file does what the call over memory does, and there are no more rows for good
once there are none. -/
theorem openOver_file {schema : StructType} (valid : schema.validate = .ok ())
    (named : schema.type.WellNamed) (columns : schema.fields ≠ []) {sink : FileSink}
    (hsink : FileSink.create schema = .ok sink) {rows : List Row} (filled : ∀ r ∈ rows, r.Filled schema)
    (writeSize readSize : Nat) {image : FileImage}
    (himage : (sink.withBatchSize writeSize).imageOf (rows.map (·.cells)) = .ok image)
    {c : ScanConfig} (hplain : c.transactional = false) :
    ∃ file, FileSource.ofImage image = .ok file ∧
      match c.openOver (.memory (.ofRows schema (rows.map (·.cells)))),
        c.openOver (.file (file.withBatchSize readSize)) with
      | .ok r, .ok r' => r'.createRow = r.createRow ∧ ∀ row n,
        List.Forall₂ RecordReader.SameReading (r.calls row n) (r'.calls row n) ∧
          (r'.calls row n).Pairwise fun x y => x.1 = .ok false → y = x
      | .error e, .error e' => e' = e
      | _, _ => False := by
  have conforms : RowsConform schema (rows.map (·.cells)) :=
    List.forall_mem_map.2 fun r hr k field hfield =>
      ((filled r hr).fits.stocked k field hfield).conforms
  obtain ⟨content, hfile, hlays, returns⟩ :=
    FileSource.ofImage_of_imageOf valid named columns hsink himage conforms
  refine ⟨_, hfile, ?_⟩
  cases hcheck : c.check with
  | error e => rw [openOver_of_check_error hcheck, openOver_of_check_error hcheck]
  | ok =>
    rw [openOver_of_check hcheck, openOver_of_check hcheck]
    have hopen : (ScanPlan.mk c hcheck).openOver
        (.file (FileSource.withBatchSize { schema := schema, content := content } readSize)) = _ :=
      ScanPlan.openOver_freshFile hplain schema content (max readSize 1)
    rw [ScanPlan.openOver_ofRows hplain, hopen]
    cases (ScanPlan.mk c hcheck).settle schema with
    | error e => exact rfl
    | ok settled =>
      have hsize : 0 < max readSize 1 := Nat.lt_of_lt_of_le Nat.zero_lt_one (Nat.le_max_right ..)
      have halike := ScanPlan.alike_reader (p := ⟨c, hcheck⟩) hsize hlays returns settled.1 settled.2
      exact ⟨rfl, fun row n => ⟨halike.forall₂_calls row n, RecordReader.calls_after_end _ row n⟩⟩

/-- A dear ware without a name, and a cheap one. -/
def namedWares : List Row :=
  [((Row.ofSchema wareSchema .stock).set "Price" (.scalar (.int 7))).2,
    (((Row.ofSchema wareSchema .stock).set "price" (.scalar (.int 3))).2.set "NAME"
      (.scalar (.string "pen"))).2]

theorem openOver_file_cheapWares : ∃ sink image file r r',
    FileSink.create wareSchema = .ok sink ∧
      (sink.withBatchSize 0).imageOf (namedWares.map (·.cells)) = .ok image ∧
      FileSource.ofImage image = .ok file ∧
      cheapWares.openOver (.memory (.ofRows wareSchema (namedWares.map (·.cells)))) = .ok r ∧
      cheapWares.openOver (.file (file.withBatchSize 2)) = .ok r' ∧
      List.Forall₂ RecordReader.SameReading (r.calls r.createRow 3) (r'.calls r'.createRow 3) := by
  obtain ⟨sink, hsink⟩ : ∃ sink, FileSink.create wareSchema = .ok sink := ⟨_, rfl⟩
  obtain ⟨image, himage⟩ : ∃ image,
      (sink.withBatchSize 0).imageOf (namedWares.map (·.cells)) = .ok image := by
    cases hsink
    exact ⟨_, rfl⟩
  have hnamed : wareSchema.type.WellNamed := by decide +kernel
  have hfilled : ∀ r ∈ namedWares, r.Filled wareSchema :=
    List.forall_mem_cons.2 ⟨.set _ _ .new, List.forall_mem_singleton.2 (.set _ _ (.set _ _ .new))⟩
  obtain ⟨file, hfile, hmatch⟩ := openOver_file (c := cheapWares) rfl hnamed (List.cons_ne_nil _ _)
    hsink hfilled 0 2 himage rfl
  have hopen : (cheapWares.openOver
      (.memory (.ofRows wareSchema (namedWares.map (·.cells))))).isOk = true := by decide +kernel
  cases hmemory : cheapWares.openOver (.memory (.ofRows wareSchema (namedWares.map (·.cells)))) with
  | error e =>
    rw [hmemory] at hopen
    cases hopen
  | ok r =>
    rw [hmemory] at hmatch
    cases hscan : cheapWares.openOver (.file (file.withBatchSize 2)) with
    | error e =>
      rw [hscan] at hmatch
      exact hmatch.elim
    | ok r' =>
      rw [hscan] at hmatch
      obtain ⟨hrow, hcalls⟩ := hmatch
      exact ⟨sink, image, file, r, r', hsink, himage, hfile, rfl, hscan, hrow ▸ (hcalls r.createRow 3).1⟩

/-- No columns. -/
def noColumns : StructType := ⟨[], by decide⟩

/-- Rows without columns can be scanned in memory, and a file of them can be written but not opened. -/
theorem ofImage_refuses_noColumns : ∃ sink image r,
    noColumns.validate = .ok () ∧ noColumns.type.WellNamed ∧
    FileSink.create noColumns = .ok sink ∧
    (sink.withBatchSize 1).imageOf [(Row.ofSchema noColumns .stock).cells] = .ok image ∧
    FileSource.ofImage image = .error .file ∧
    ScanConfig.openOver ⟨.fromSource, none, none, true, .lenient, false, false⟩
      (.memory (.ofRows noColumns [(Row.ofSchema noColumns .stock).cells])) = .ok r :=
  ⟨_, _, _, rfl, by decide +kernel, rfl, rfl, rfl, rfl⟩

end ScanConfig

end ColumnScan
