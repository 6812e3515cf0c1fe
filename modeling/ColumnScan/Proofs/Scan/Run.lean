import ColumnScan.Proofs.Scan.Judging

/-!
# Reading a scan to its end

A scan over rows in memory never fails once it is open: call by call it hands on the rows that the
plan accepts, judged as they are in the source and not as they are read, in the order of the source,
and then says that there are no more. Main statement: `ScanPlan.answers_of_open`.
-/

namespace ColumnScan

/-! ## One call -/

namespace RecordReader

variable {r : RecordReader} {row row' : Row} {source : RowSource} {cells : Cells}

theorem next_of_done (h : r.isDone = true) : r.next row = (.ok false, r, row) := by
  rw [next, if_pos h]

theorem next_of_exhausted (h : r.isDone = false) (hnext : r.source.next = (.exhausted, source)) :
    r.next row = (.ok false, { r with source := source, isDone := true }, row) := by
  rw [next, h, if_neg Bool.false_ne_true]
  split <;> simp_all

theorem next_of_reject (h : r.isDone = false) (hnext : r.source.next = (.row cells, source))
    (haccept : r.filter.accept (row.withCells cells) = (.ok false, row')) :
    r.next row = next { r with source := source, skipped := r.skipped + 1 } row' := by
  conv => lhs; rw [next, h, if_neg Bool.false_ne_true]
  split <;> simp_all

theorem next_of_accept (h : r.isDone = false) (hnext : r.source.next = (.row cells, source))
    (haccept : r.filter.accept (row.withCells cells) = (.ok true, row')) :
    r.next row = (.ok true, { r with source := source, read := r.read + 1 },
      row'.withId (rowId { r with source := source, read := r.read + 1 })) := by
  rw [next, h, if_neg Bool.false_ne_true]
  split <;> simp_all

theorem next_of_error {e : Error} (h : r.isDone = false)
    (hnext : r.source.next = (.row cells, source))
    (haccept : r.filter.accept (row.withCells cells) = (.error e, row')) :
    r.next row = (.error e, { r with source := source }, row') := by
  rw [next, h, if_neg Bool.false_ne_true]
  split <;> simp_all

/-- A call that says that there are no more rows is the last to ask the source. -/
theorem isDone_of_next (h : (r.next row).1 = .ok false) :
    (r.next row).2.1.isDone = true := by
  fun_induction RecordReader.next r row with
  | case1 r row hdone => exact hdone
  | case2 => rfl
  | case3 => cases h
  | case4 => cases h
  | case5 r row _ _ _ _ _ _ ih => exact ih h
  | case6 => cases h

/-- The row can be handed to a reader of a source with this schema. -/
structure Fits (actual : StructType) (row : Row) : Prop where
  schema : row.schema = actual
  factory : row.factory = .stock

/-- The reader has these rows before it, hands on the visible part of a row, and judges complete
rows. -/
structure Serves (actual : StructType) (visible : Cells → Cells) (accepts : Cells → Bool)
    (rows : List (Cells × Option RecordId)) (r : RecordReader) : Prop where
  isDone : r.isDone = false
  source : ∃ s : MemorySource, r.source = .memory s ∧ s.rows = rows ∧
    ∀ cells, Cells.project (isWanted s.projection) s.schema.size cells.values = visible cells
  judges : Judges r.filter actual visible accepts

variable {actual : StructType} {visible : Cells → Cells} {accepts : Cells → Bool}
  {rows : List (Cells × Option RecordId)}

/-- The source hands out what is visible of its first row, and the filter judges the complete row. -/
theorem Serves.step {id : Option RecordId} (h : Serves actual visible accepts ((cells, id) :: rows) r)
    (hrow : Fits actual row) :
    ∃ source row', r.source.next = (.row (visible cells), source) ∧
      r.filter.accept (row.withCells (visible cells)) = (.ok (accepts cells), row') ∧
      (Fits actual row' ∧ row'.cells = visible cells) ∧
      ∀ r' : RecordReader, r'.isDone = false → r'.source = source → r'.filter = r.filter →
        Serves actual visible accepts rows r' := by
  obtain ⟨s, hs, hrows, hvisible⟩ := h.source
  obtain ⟨row', haccept, hlike⟩ :=
    h.judges.accept (row.withCells (visible cells)) cells hrow.schema hrow.factory rfl
  refine ⟨.memory { s with rows := rows, current := id }, row', ?_, haccept, ?_, ?_⟩
  · rw [hs, RowSource.next, MemorySource.next, hrows]
    simp only [hvisible]
  · exact ⟨⟨hlike.schema.trans hrow.schema, hlike.factory.trans hrow.factory⟩, hlike.cells⟩
  · rintro r' hdone hsource hfilter
    exact ⟨hdone, ⟨_, hsource, rfl, hvisible⟩, hfilter ▸ h.judges⟩

/-- A call without an accepted row before it says that there are no more, for good. -/
theorem Serves.next_of_none (h : Serves actual visible accepts rows r) (hrow : Fits actual row)
    (hnone : (rows.map Prod.fst).filter accepts = []) :
    ∃ r' row', r.next row = (.ok false, r', row') ∧ r'.isDone = true := by
  -- Every row that is left out calls for one more turn of the same call.
  induction rows generalizing r row with
  | nil =>
    obtain ⟨s, hs, hrows, _⟩ := h.source
    have hnext : r.source.next = (.exhausted, .memory { s with current := none }) := by
      rw [hs, RowSource.next, MemorySource.next, hrows]
    exact ⟨_, row, next_of_exhausted h.isDone hnext, rfl⟩
  | cons x rest ih =>
    obtain ⟨cells, id⟩ := x
    obtain ⟨hreject, hrest⟩ : accepts cells = false ∧ (rest.map Prod.fst).filter accepts = [] := by
      rw [List.map_cons, List.filter_cons] at hnone
      split at hnone
      · cases hnone
      next hc => exact ⟨Bool.eq_false_iff.2 hc, hnone⟩
    obtain ⟨source, row', hnext, haccept, ⟨hrow', _⟩, hserves⟩ := h.step hrow
    rw [hreject] at haccept
    rw [next_of_reject h.isDone hnext haccept]
    exact ih (hserves _ h.isDone rfl rfl) hrow' hrest

/-- A call hands on the first accepted row before it and passes the rows up to there. -/
theorem Serves.next_of_some (h : Serves actual visible accepts rows r) (hrow : Fits actual row)
    {first : Cells} {others : List Cells}
    (hsome : (rows.map Prod.fst).filter accepts = first :: others) :
    ∃ r' row' rows', r.next row = (.ok true, r', row') ∧ row'.cells = visible first ∧
      Fits actual row' ∧ Serves actual visible accepts rows' r' ∧
      (rows'.map Prod.fst).filter accepts = others := by
  induction rows generalizing r row with
  | nil => cases hsome
  | cons y rest ih =>
    obtain ⟨cells, id⟩ := y
    obtain ⟨source, row', hnext, haccept, ⟨hrow', hcells⟩, hserves⟩ := h.step hrow
    rw [List.map_cons, List.filter_cons] at hsome
    split at hsome
    next hc =>
      cases hsome
      rw [hc] at haccept
      exact ⟨_, _, rest, next_of_accept h.isDone hnext haccept, hcells,
        ⟨hrow'.schema, hrow'.factory⟩, hserves _ h.isDone rfl rfl, rfl⟩
    next hc =>
      rw [Bool.eq_false_iff.2 hc] at haccept
      rw [next_of_reject h.isDone hnext haccept]
      exact ih (hserves _ h.isDone rfl rfl) hrow' hsome

/-! ## Many calls -/

/-- The answers of the next calls, each made with the row that the call before left: what the row
holds when it was filled, and nothing when there are no more rows. -/
def answers (r : RecordReader) (row : Row) : Nat → List (Except Error (Option Cells))
  | 0 => []
  | n + 1 =>
    match r.next row with
    | (.ok true, r, row) => .ok (some row.cells) :: answers r row n
    | (.ok false, r, row) => .ok none :: answers r row n
    | (.error e, r, row) => .error e :: answers r row n

theorem answers_of_done (h : r.isDone = true) (n : Nat) :
    r.answers row n = List.replicate n (.ok none) := by
  induction n with
  | zero => rfl
  | succ n ih =>
    rw [answers, next_of_done h, List.replicate_succ]
    exact congrArg _ ih

/-- The accepted rows in their order, then the answer that there are no more. -/
theorem Serves.answers_eq (h : Serves actual visible accepts rows r) (hrow : Fits actual row)
    (n : Nat) :
    r.answers row n =
      (((rows.map Prod.fst).filter accepts).map (fun cells => Except.ok (some (visible cells))) ++
        List.replicate n (Except.ok none)).take n := by
  induction n generalizing r row rows with
  | zero => rfl
  | succ n ih =>
    rw [answers]
    cases haccepted : (rows.map Prod.fst).filter accepts with
    | nil =>
      obtain ⟨r', row', hnext, hdone⟩ := h.next_of_none hrow haccepted
      rw [hnext]
      dsimp only
      rw [answers_of_done hdone, List.map_nil, List.nil_append, List.take_replicate, Nat.min_self,
        List.replicate_succ]
    | cons first others =>
      rcases h.next_of_some hrow haccepted with
        ⟨r', row', rows', hnext, hcells, hrow', hserves, rfl⟩
      rw [hnext]
      dsimp only
      rw [ih hserves hrow', hcells, List.map_cons, List.cons_append, List.take_succ_cons]
      -- One more answer at the end is beyond the calls that are left.
      have hmin : ∀ k, min (n - k) n = min (n - k) (n + 1) := fun k => by omega
      rw [List.take_append, List.take_append, List.take_replicate, List.take_replicate, hmin]

end RecordReader

/-! ## The scan -/

namespace ScanPlan

variable {p : ScanPlan} {s : MemorySource} {r : RecordReader}

/-- The complete rows of a source that a scan hands on. -/
def accepted (p : ScanPlan) (s : MemorySource) : List Cells :=
  (s.rows.map Prod.fst).filter (p.accepts s.schema)

theorem mem_ordinals_iff {actual read : StructType} {ordinals : List Nat}
    (hcovers : p.Covers actual read)
    (hordinals : ∀ i, i ∈ ordinals ↔ ∃ field ∈ read.fields, actual.indexOf? field.name = some i)
    (i : Nat) : i ∈ ordinals ↔ p.shows actual i = true := by
  rw [hordinals, shows, List.any_eq_true]
  constructor
  · rintro ⟨field, hfield, hindex⟩
    obtain ⟨name, hname, hkey⟩ :=
      List.mem_map.1 ((hcovers.keys _).1 (List.mem_map_of_mem hfield))
    refine ⟨name, hname, ?_⟩
    rw [beq_iff_eq, ← hindex]
    exact congrArg actual.indexOfKey? hkey
  · rintro ⟨name, hname, hindex⟩
    obtain ⟨field, hfield, hkey⟩ :=
      List.mem_map.1 ((hcovers.keys _).2 (List.mem_map_of_mem hname))
    refine ⟨field, hfield, ?_⟩
    rw [← beq_iff_eq.1 hindex]
    exact congrArg actual.indexOfKey? hkey

/-- A leaf that could be bound has its column in the schema of the scan. -/
theorem exists_lookup?_of_filter {resolved : StructType} {argument? : Option SearchArgument}
    {filter : RowFilter} (h : ScanPlan.filter resolved argument? = .ok filter) :
    ∀ name ∈ leafNames argument?, ∃ i field, resolved.lookup? name = some (i, field) := by
  cases argument? with
  | none =>
    intro name hname
    cases hname
  | some argument =>
    obtain ⟨f, hf, _⟩ := map_eq_ok_iff.1 (mapError_eq_ok_iff.1 h)
    obtain ⟨es, hes, _⟩ := map_eq_ok_iff.1 hf
    intro name hname
    obtain ⟨leaf, hleaf, rfl⟩ := List.mem_map.1 hname
    obtain ⟨e, _, he⟩ := exists_mem_of_forall₂ (Evaluator.makeAll_eq_ok hes) leaf hleaf
    obtain ⟨i, field, _, hfield, _⟩ := Evaluator.make_eq_ok he
    exact ⟨i, field, hfield⟩

/-- A scan that is open over rows in memory serves all of them. -/
theorem serves_of_open (hplain : p.config.transactional = false)
    (h : p.openOver (.memory s) = .ok r) :
    r.schema = s.schema ∧ r.factory = .stock ∧
      r.Serves s.schema (p.visible s.schema) (p.accepts s.schema) s.rows := by
  -- Opening is a chain of steps, each of which must have given what the reader is made of.
  obtain ⟨source, hsource, h⟩ := bind_eq_ok_iff.1 h
  rw [unwrap, hplain] at hsource
  cases hsource
  obtain ⟨requested, hrequested, h⟩ := bind_eq_ok_iff.1 h
  obtain ⟨argument?, hargument, h⟩ := bind_eq_ok_iff.1 h
  obtain ⟨read, hread, h⟩ := bind_eq_ok_iff.1 h
  obtain ⟨projection, hprojection, h⟩ := bind_eq_ok_iff.1 h
  obtain ⟨source, hsource, h⟩ := bind_eq_ok_iff.1 h
  obtain ⟨filter, hfilter, h⟩ := bind_eq_ok_iff.1 h
  cases hsource
  rcases pure_eq_ok_iff.1 h with rfl
  have hjudge : p.judge? = argument? := by
    rw [judge?, hargument]
    cases argument? <;> rfl
  subst hjudge
  have hread := mapError_eq_ok_iff.1 hread
  obtain ⟨hhas, hkeys⟩ := readFields_spec hrequested (exists_lookup?_of_filter hfilter) hread
  obtain ⟨hordinals, htypes⟩ := ColumnProjection.ofRequest_eq_ok hprojection
  have hcovers : p.Covers s.schema read := ⟨hhas, hkeys, htypes⟩
  refine ⟨rfl, rfl, rfl, ⟨_, rfl, rfl, ?_⟩, hcovers.judges_filter hfilter⟩
  exact project_eq_visible (mem_ordinals_iff hcovers hordinals)

/-- Called again and again, a scan that is open over rows in memory hands on exactly the accepted
rows, with what is visible of them, and fails at no call; which rows are accepted depends neither on
the columns asked for nor on the mode. -/
theorem answers_of_open (hplain : p.config.transactional = false)
    (h : p.openOver (.memory s) = .ok r) :
    (∀ n, r.answers r.createRow n =
      ((p.accepted s).map (fun cells => Except.ok (some (p.visible s.schema cells))) ++
        List.replicate n (Except.ok none)).take n) ∧
    ∀ q : ScanPlan, q.config = { p.config with columns := q.config.columns, mode := q.config.mode } →
      q.accepted s = p.accepted s := by
  obtain ⟨hschema, hfactory, hserves⟩ := serves_of_open hplain h
  constructor
  · intro n
    exact hserves.answers_eq ⟨hschema, hfactory⟩ n
  intro q hq
  -- Nothing that judges a row looks at the columns asked for or at the mode.
  have hjudge : q.judge? = p.judge? := by
    rw [judge?, judge?, argument?, argument?, hq]
  have hresolve : q.resolve s.schema = p.resolve s.schema := by
    rw [resolve, resolve, hq]
  have haccepts : q.accepts s.schema = p.accepts s.schema := by
    funext cells
    rw [accepts, accepts, hjudge, hresolve]
  rw [accepted, accepted, haccepts]

/-- A scan of one column whose search argument looks at another. -/
def cheapNames : ScanPlan where
  config :=
    { schema := .declared
        ⟨[⟨"name", .primitive .string⟩, ⟨"Price", .primitive .int⟩], by decide +kernel⟩
      columns := some ["NAME"]
      searchArgument := some ("\x7b\"leaves\":[\x7b\"operator\":\"LessThan\",\"column\":\"price\"," ++
        "\"literals\":[\x7b\"Long\":5\x7d]\x7d],\"expression\":\x7b\"Leaf\":0\x7d\x7d") }
  checked := by decide +kernel

/-- Three rows, the last of which has no price. -/
def wares : MemorySource where
  schema :=
    ⟨[⟨"id", .primitive .long⟩, ⟨"price", .primitive .int⟩, ⟨"Name", .primitive .string⟩],
      by decide +kernel⟩
  rows :=
    [(⟨[.scalar (.long 1), .scalar (.int 7), .scalar (.string "desk")]⟩, none),
     (⟨[.scalar (.long 2), .scalar (.int 3), .scalar (.string "pen")]⟩, none),
     (⟨[.scalar (.long 3)]⟩, none)]

theorem answers_of_open_cheapNames :
    ∃ r, cheapNames.openOver (.memory wares) = .ok r ∧
      r.answers r.createRow 3 =
        [.ok (some ⟨[.null, .scalar (.int 3), .scalar (.string "pen")]⟩), .ok none, .ok none] := by
  have hopen : (cheapNames.openOver (.memory wares)).isOk = true := by decide +kernel
  have haccepts : wares.rows.map (fun x => cheapNames.accepts wares.schema x.1) =
      [false, true, false] := by decide +kernel
  have hshows : (List.range 3).map (cheapNames.shows wares.schema) = [false, true, true] := by
    decide +kernel
  cases h : cheapNames.openOver (.memory wares) with
  | error e =>
    rw [h] at hopen
    cases hopen
  | ok r =>
    refine ⟨r, rfl, ?_⟩
    rw [(answers_of_open rfl h).1 3]
    simp only [wares, List.map_cons, List.map_nil, List.range_succ, List.range_zero,
      List.nil_append, List.cons_append, List.cons.injEq, and_true] at haccepts hshows
    simp [accepted, visible, wares, haccepts, hshows, StructType.size, List.range_succ, Cells.getD,
      Cells.get?]

end ScanPlan

end ColumnScan
