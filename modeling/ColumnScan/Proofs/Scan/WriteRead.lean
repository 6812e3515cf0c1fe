import ColumnScan.Proofs.Row.Filling
import ColumnScan.Proofs.Scan.Run
import ColumnScan.Proofs.Storage.Sources
import ColumnScan.Scan.Writer

/-!
# Writing rows and reading them back

One row is filled, written, cleared and filled again, and every write stores what the row is at that
moment: whatever is done to the row or the writer in whatever order, the rows read back are those of the
writes that succeeded, in their order, and each reads by name as the row did when it was written. Main
statement: `WritePlan.readings_openOver`.
-/

namespace ColumnScan

/-! ## Calls -/

/-- A call of a writer or of the row that goes with it. -/
inductive WriterCall where
  | set (name : String) (value : Native)
  | clear
  | write
  | close

namespace RecordWriter

/-- Makes a call: the answer, and the writer and the row after it. -/
def call (w : RecordWriter) (row : Row) : WriterCall → Except Error Unit × RecordWriter × Row
  | .set name value => ((row.set name value).1, w, (row.set name value).2)
  | .clear => (.ok (), w, row.clear)
  | .write => ((w.write row).1, (w.write row).2, row)
  | .close => (w.close.1, w.close.2, row)

/-- The writer and the row after some calls. -/
def run (w : RecordWriter) (row : Row) : List WriterCall → RecordWriter × Row
  | [] => (w, row)
  | c :: rest => run (w.call row c).2.1 (w.call row c).2.2 rest

/-- The row as it is at each write that succeeds. -/
def taken (w : RecordWriter) (row : Row) : List WriterCall → List Row
  | [] => []
  | .write :: rest =>
    match w.write row with
    | (.ok _, w) => row :: taken w row rest
    | (.error _, w) => taken w row rest
  | c :: rest => taken (w.call row c).2.1 (w.call row c).2.2 rest

end RecordWriter

/-- Reads some columns by name, one after the other. -/
def Row.gets (r : Row) : List String → List (Except Error Native) × Row
  | [] => ([], r)
  | name :: rest => ((r.get name).1 :: ((r.get name).2.gets rest).1, ((r.get name).2.gets rest).2)

/-- Asks for one row after the other, always with the same row, and reads some of its columns by name in
between: what each call answers, what is read, and the reader after the call. -/
def RecordReader.readings (r : RecordReader) (row : Row) :
    List (List String) → List (Except Error Bool × List (Except Error Native) × RecordReader)
  | [] => []
  | names :: rest =>
    ((r.next row).1, ((r.next row).2.2.gets names).1, (r.next row).2.1) ::
      readings (r.next row).2.1 ((r.next row).2.2.gets names).2 rest

/-! ## Writing -/

/-- The sink in memory holds the rows taken so far, which were filled by name like the row at hand. -/
structure Writing (schema : StructType) (rows : List Row) (isClosed : Bool) (w : RecordWriter)
    (row : Row) : Prop where
  sink : w.sink = .memory ⟨schema, rows.map (·.cells), isClosed⟩
  written : w.written = rows.length
  filled : row.Filled schema
  allFilled : ∀ r ∈ rows, r.Filled schema

namespace Writing

variable {schema : StructType} {rows : List Row} {isClosed : Bool} {w : RecordWriter} {row : Row}

theorem write_of_open (h : Writing schema rows false w row) : ∃ w', w.write row = (.ok (), w') ∧
    Writing schema (rows ++ [row]) false w' row := by
  have hpad : row.cells.padTo schema.size = row.cells := by
    have hsize : row.cells.values.length = schema.size := h.filled.fits.size
    rw [Cells.padTo, hsize, Nat.sub_self, List.replicate_zero, List.append_nil]
  refine ⟨{ w with
    sink := .memory ⟨schema, (rows ++ [row]).map (·.cells), false⟩, written := w.written + 1 },
    ?_, rfl, ?_, h.filled, ?_⟩
  · rw [RecordWriter.write, h.sink, RowSink.write, MemorySink.write, if_neg Bool.false_ne_true, hpad,
      List.map_append]
    rfl
  · rw [List.length_append]
    exact congrArg (· + 1) h.written
  · exact List.forall_mem_append.2 ⟨h.allFilled, List.forall_mem_singleton.2 h.filled⟩

theorem write_of_closed (h : Writing schema rows true w row) :
    w.write row = (.error (.storage .closed), w) := by
  have hsink : w.sink.write row.cells = (.error .closed, w.sink) := by
    rw [h.sink]
    rfl
  rw [RecordWriter.write, hsink]

theorem close (h : Writing schema rows isClosed w row) : Writing schema rows true w.close.2 row := by
  refine { h with sink := ?_ }
  rw [RecordWriter.close, h.sink]
  rfl

/-- Once the sink is closed nothing is taken any more. -/
theorem run_of_closed (h : Writing schema rows true w row) (cs : List WriterCall) :
    w.taken row cs = [] ∧ Writing schema rows true (w.run row cs).1 (w.run row cs).2 := by
  induction cs generalizing w row with
  | nil => exact ⟨rfl, h⟩
  | cons c rest ih =>
    cases c with
    | set name value => exact ih { h with filled := h.filled.set name value }
    | clear => exact ih { h with filled := h.filled.clear }
    | write =>
      rw [RecordWriter.taken, RecordWriter.run, RecordWriter.call, h.write_of_closed]
      exact ih h
    | close => exact ih h.close

/-- Until it is closed the sink takes every row that is written. -/
theorem run_of_open (h : Writing schema rows false w row) (cs : List WriterCall) :
    ∃ isClosed, (isClosed = true ↔ .close ∈ cs) ∧
      Writing schema (rows ++ w.taken row cs) isClosed (w.run row cs).1 (w.run row cs).2 := by
  induction cs generalizing w row rows with
  | nil =>
    refine ⟨false, iff_of_false Bool.false_ne_true List.not_mem_nil, ?_⟩
    rw [RecordWriter.taken, List.append_nil]
    exact h
  | cons c rest ih =>
    cases c with
    | set name value =>
      obtain ⟨isClosed, hclosed, hrest⟩ := ih { h with filled := h.filled.set name value }
      exact ⟨isClosed, hclosed.trans (by simp), hrest⟩
    | clear =>
      obtain ⟨isClosed, hclosed, hrest⟩ := ih { h with filled := h.filled.clear }
      exact ⟨isClosed, hclosed.trans (by simp), hrest⟩
    | write =>
      obtain ⟨w', hwrite, hnext⟩ := h.write_of_open
      obtain ⟨isClosed, hclosed, hrest⟩ := ih hnext
      refine ⟨isClosed, hclosed.trans (by simp), ?_⟩
      rw [RecordWriter.taken, RecordWriter.run, RecordWriter.call, hwrite]
      rwa [List.append_assoc] at hrest
    | close =>
      obtain ⟨htaken, hrest⟩ := h.close.run_of_closed rest
      refine ⟨true, iff_of_true rfl List.mem_cons_self, ?_⟩
      have hnone : w.taken row (.close :: rest) = [] := htaken
      rw [hnone, List.append_nil]
      exact hrest

end Writing

/-! ## Reading -/

/-- Reading by name depends on the schema, the converters and the cells of a row alone. -/
theorem Row.get_congr {r r' : Row} (hschema : r.schema = r'.schema) (hfactory : r.factory = r'.factory)
    (hcells : r.cells = r'.cells) (name : String) : (r.get name).1 = (r'.get name).1 := by
  obtain ⟨_, _, hget⟩ := r.get_spec name
  obtain ⟨_, _, hget'⟩ := r'.get_spec name
  rw [hget, hget', accessor, accessor, hschema, hfactory, hcells]

/-- Looking columns up by name changes nothing that a later look could tell. -/
theorem Row.gets_spec (r : Row) (names : List String) :
    (r.gets names).1 = names.map (fun name => (r.get name).1) ∧ r.Like (r.gets names).2 := by
  induction names generalizing r with
  | nil => exact ⟨rfl, .refl r⟩
  | cons name rest ih =>
    have hlike : r.Like (r.get name).2 := by
      obtain ⟨r', hlike, hget⟩ := r.get_spec name
      rw [hget]
      exact hlike
    obtain ⟨hrest, hlater⟩ := ih (r.get name).2
    refine ⟨?_, hlike.trans hlater⟩
    rw [Row.gets, List.map_cons, hrest]
    exact congrArg _ (List.map_congr_left fun other _ =>
      Row.get_congr hlike.schema hlike.factory hlike.cells other)

namespace RecordReader

/-- The call with this number hands on the row with this number, with what it reads by these names, or
says that there are no more; no row was left out by then. -/
def HandsOn (rows : List Row) (k : Nat) (names : List String)
    (x : Except Error Bool × List (Except Error Native) × RecordReader) : Prop :=
  x.2.2.skipped = 0 ∧
    match rows[k]? with
    | some row => x.1 = .ok true ∧ x.2.1 = names.map (fun name => (row.get name).1) ∧
      x.2.2.read = k + 1
    | none => x.1 = .ok false ∧ x.2.2.read = rows.length

/-- The reader was called so many times, and hands on all of these rows. -/
structure Reading (rows : List Row) (k : Nat) (r : RecordReader) : Prop where
  filter : r.filter = .acceptAll
  skipped : r.skipped = 0
  place : (r.isDone = false ∧ r.read = k ∧ k ≤ rows.length ∧
      r.source.HandsOut ((rows.drop k).map (·.cells))) ∨
    (r.isDone = true ∧ r.read = rows.length ∧ rows.length ≤ k)

variable {schema : StructType} {rows : List Row} {k : Nat} {r : RecordReader} {row : Row}

theorem Fits.gets (h : Fits schema row) (names : List String) : Fits schema (row.gets names).2 := by
  obtain ⟨_, hlike⟩ := row.gets_spec names
  exact ⟨hlike.schema.trans h.schema, hlike.factory.trans h.factory⟩

/-- One more call hands on one more row, or says for good that there are no more. -/
theorem Reading.next (h : Reading rows k r) (allFilled : ∀ t ∈ rows, t.Filled schema)
    (hrow : Fits schema row) (names : List String) :
    HandsOn rows k names ((r.next row).1, ((r.next row).2.2.gets names).1, (r.next row).2.1) ∧
      Reading rows (k + 1) (r.next row).2.1 ∧ Fits schema ((r.next row).2.2.gets names).2 := by
  obtain ⟨hopen, hread, hle, hrows⟩ | ⟨hdone, hread, hend⟩ := h.place
  · cases hk : rows[k]? with
    | none =>
      have hend : rows.length ≤ k := List.getElem?_eq_none_iff.1 hk
      have hall : r.read = rows.length := hread.trans (hle.antisymm hend)
      rw [List.drop_eq_nil_of_le hend] at hrows
      cases hrows with | @nil _ s hnext => ?_
      rw [next_of_exhausted hopen hnext]
      refine ⟨⟨h.skipped, ?_⟩, ⟨h.filter, h.skipped, .inr ⟨rfl, hall, Nat.le_succ_of_le hend⟩⟩,
        hrow.gets names⟩
      rw [hk]
      exact ⟨rfl, hall⟩
    | some t =>
      obtain ⟨hlt, hget⟩ := List.getElem?_eq_some_iff.1 hk
      have ht := (allFilled t (List.mem_of_getElem? hk)).fits
      rw [List.drop_eq_getElem_cons hlt, hget, List.map_cons] at hrows
      cases hrows with | @cons _ s _ _ hnext hrest => ?_
      have haccept : r.filter.accept (row.withCells t.cells) = (.ok true, row.withCells t.cells) := by
        rw [h.filter]
        rfl
      obtain ⟨id, hcall⟩ : ∃ id, r.next row = (.ok true, { r with source := s, read := r.read + 1 },
          (row.withCells t.cells).withId id) := ⟨_, next_of_accept hopen hnext haccept⟩
      have hread' : r.read + 1 = k + 1 := congrArg (· + 1) hread
      have hrow' : Fits schema ((row.withCells t.cells).withId id) := ⟨hrow.schema, hrow.factory⟩
      have hsame : ∀ name, (((row.withCells t.cells).withId id).get name).1 = (t.get name).1 :=
        Row.get_congr (hrow'.schema.trans ht.sameSchema.symm) (hrow'.factory.trans ht.factory.symm) rfl
      rw [hcall]
      refine ⟨⟨h.skipped, ?_⟩, ⟨h.filter, h.skipped, .inl ⟨hopen, hread', hlt, hrest⟩⟩,
        hrow'.gets names⟩
      rw [hk]
      refine ⟨rfl, ?_, hread'⟩
      rw [(Row.gets_spec _ names).1]
      exact List.map_congr_left fun name _ => hsame name
  · rw [next_of_done hdone]
    refine ⟨⟨h.skipped, ?_⟩, ⟨h.filter, h.skipped, .inr ⟨hdone, hread, Nat.le_succ_of_le hend⟩⟩,
      hrow.gets names⟩
    rw [List.getElem?_eq_none hend]
    exact ⟨rfl, hread⟩

theorem Reading.forall₂_readings (h : Reading rows k r) (allFilled : ∀ t ∈ rows, t.Filled schema)
    (hrow : Fits schema row) (asked : List (List String)) :
    List.Forall₂ (fun x names => HandsOn rows names.2 names.1 x) (r.readings row asked)
      (asked.zipIdx k) := by
  induction asked generalizing r row k with
  | nil => exact .nil
  | cons names rest ih =>
    obtain ⟨hhands, hnext, hrow'⟩ := h.next allFilled hrow names
    exact .cons hhands (ih hnext hrow')

/-- A reader of the rows in memory hands on all of them. -/
theorem reading_ofRows (allFilled : ∀ t ∈ rows, t.Filled schema) :
    Reading rows 0 (.ofSource (.memory (.ofRows schema (rows.map (·.cells))))) := by
  have hmemory : (RowSource.memory (.ofRows schema (rows.map (·.cells)))).HandsOut
      (rows.map (·.cells)) :=
    RowSource.handsOut_ofRows (List.forall_mem_map.2 fun t ht => (allFilled t ht).fits.size)
  exact ⟨rfl, rfl, .inl ⟨rfl, rfl, Nat.zero_le _, hmemory⟩⟩

end RecordReader

/-! ## Writing, then reading -/

/-- Whatever is done to the writer and its row: a write is taken until the sink is closed and is refused
afterwards, which changes nothing; the rows that were taken are counted; and a reader hands on these rows,
one for each write that was taken, in their order, with what each read by name when it was written. -/
theorem WritePlan.readings_openOver (p : WritePlan) (cs : List WriterCall) :
    let start := p.openOver (.memory { schema := p.schema })
    let taken := start.1.taken start.2 cs
    let (w, row) := start.1.run start.2 cs
    (.close ∉ cs → (w.write row).1 = .ok ()) ∧
    (.close ∈ cs → w.write row = (.error (.storage .closed), w)) ∧
    w.written = taken.length ∧
    ∃ sink, w.sink = .memory sink ∧ ∀ asked,
      List.Forall₂ (fun x names => RecordReader.HandsOn taken names.2 names.1 x)
        ((RecordReader.ofSource (.memory sink.toSource)).readings
          (RecordReader.ofSource (.memory sink.toSource)).createRow asked) asked.zipIdx := by
  have hstart : Writing p.schema [] false (p.openOver (.memory { schema := p.schema })).1
      (p.openOver (.memory { schema := p.schema })).2 := ⟨rfl, rfl, .new, nofun⟩
  obtain ⟨isClosed, hclosed, hrun⟩ := hstart.run_of_open cs
  rw [List.nil_append] at hrun
  refine ⟨fun hnot => ?_, fun hclose => ?_, hrun.written, _, hrun.sink, fun asked => ?_⟩
  · obtain rfl : isClosed = false := Bool.eq_false_iff.2 (mt hclosed.1 hnot)
    obtain ⟨_, hwrite, _⟩ := hrun.write_of_open
    exact congrArg Prod.fst hwrite
  · obtain rfl : isClosed = true := hclosed.2 hclose
    exact hrun.write_of_closed
  · exact (RecordReader.reading_ofRows hrun.allFilled).forall₂_readings hrun.allFilled ⟨rfl, rfl⟩ asked

/-- A text of three characters. -/
def notes : StructType := ⟨[⟨"Text", .primitive (.char 3)⟩], by decide +kernel⟩

/-- A note, a write that fails and leaves it as it is, another note in its place, and one too late. -/
def noteCalls : List WriterCall :=
  [.set "text" (.scalar (.string "first")), .write, .set "Text" (.scalar (.boolean true)), .write,
    .clear, .set "TEXT" (.scalar (.string "last")), .write, .close, .write, .clear]

theorem WritePlan.readings_openOver_notes :
    let start := WritePlan.openOver ⟨notes, rfl⟩ (.memory { schema := notes })
    let taken := start.1.taken start.2 noteCalls
    let (w, row) := start.1.run start.2 noteCalls
    taken.map (fun row => (row.get "Text").1) =
      [.ok (.scalar (.string "fir")), .ok (.scalar (.string "fir")), .ok (.scalar (.string "las"))] ∧
    w.write row = (.error (.storage .closed), w) ∧ w.written = 3 ∧
    ∃ sink, w.sink = .memory sink ∧ ∀ asked,
      List.Forall₂ (fun x names => RecordReader.HandsOn taken names.2 names.1 x)
        ((RecordReader.ofSource (.memory sink.toSource)).readings
          (RecordReader.ofSource (.memory sink.toSource)).createRow asked) asked.zipIdx := by
  obtain ⟨_, hrefused, hwritten, hread⟩ := WritePlan.readings_openOver ⟨notes, rfl⟩ noteCalls
  have hclose : .close ∈ noteCalls := by simp [noteCalls]
  exact ⟨rfl, hrefused hclose, hwritten, hread⟩

end ColumnScan
