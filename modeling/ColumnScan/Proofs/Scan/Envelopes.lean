import ColumnScan.Proofs.Scan.Filtering
import ColumnScan.Proofs.Scan.Run

/-!
# Scans of envelopes

A scan of a transactional store sees what a scan of the rows inside its envelopes would see: it opens
or is refused alike, and call by call it gives the same answer, the same cells and the same counts,
also where a filter leaves rows out or fails. Only the identities differ, which the rows in envelopes
have. Main statement: `ScanConfig.openOver_envelopes`.
-/

namespace ColumnScan

/-! ## Rows with and without envelopes -/

/-- A row of the user with what its envelope holds beside it. -/
structure EnvelopedRow where
  id : RecordId
  operation : Stored
  current : Stored
  values : List Stored

namespace EnvelopedRow

/-- The row of the user. -/
def plain (e : EnvelopedRow) : Cells := ⟨e.values⟩

/-- The envelope of the row. -/
def enveloped (e : EnvelopedRow) : Cells :=
  ⟨[e.operation, .scalar (.long e.id.writeId), .scalar (.int e.id.bucket),
    .scalar (.long e.id.rowId), e.current, .struct e.values]⟩

/-- The rows of the user in memory. -/
def plainSource (schema : StructType) (rows : List EnvelopedRow) : MemorySource :=
  .ofRows schema (rows.map plain)

/-- The envelopes of the rows in memory. -/
def envelopeSource (schema : StructType) (rows : List EnvelopedRow) : MemorySource :=
  .ofRows (Envelope.envelope schema) (rows.map enveloped)

theorem idOf_enveloped (e : EnvelopedRow) :
    Envelope.idOf (.project (isWanted (some Envelope.ordinals)) Envelope.size e.enveloped.values) =
      some e.id := rfl

theorem unwrap_enveloped (e : EnvelopedRow) (view : EnvelopeView) :
    view.unwrap
        (.project (isWanted (some Envelope.ordinals)) Envelope.size e.enveloped.values) =
      .row (.project (isWanted view.projection) view.schema.size e.plain.values) := rfl

end EnvelopedRow

/-! ## Many calls -/

/-- What the next calls give, each made with the row that the call before left. -/
def RecordReader.calls (r : RecordReader) (row : Row) :
    Nat → List (Except Error Bool × RecordReader × Row)
  | 0 => []
  | n + 1 => r.next row :: calls (r.next row).2.1 (r.next row).2.2 n

/-- A call over envelopes gave what a call over the rows inside gave. If it was a row, it holds values of
the row read last and null, and over envelopes it has the identity of that row, if rows get one. -/
structure SameCall (rows : List EnvelopedRow) (withIds : Bool)
    (plain enveloped : Except Error Bool × RecordReader × Row) : Prop where
  answer : enveloped.1 = plain.1
  cells : enveloped.2.2.cells = plain.2.2.cells
  read : enveloped.2.1.read = plain.2.1.read
  skipped : enveloped.2.1.skipped = plain.2.1.skipped
  row : plain.1 = .ok true → ∃ e, rows[rows.length - (plain.2.1.source.remaining + 1)]? = some e ∧
    (∀ i, plain.2.2.cells.getD i = .null ∨ plain.2.2.cells.getD i = e.plain.getD i) ∧
      enveloped.2.2.id = if withIds then some e.id else none

/-! ## Call by call -/

/-- The sources have these rows before them, one as they are and the other in envelopes. -/
structure SameRows (schema : StructType) (projection : List Nat) (rows : List EnvelopedRow)
    (plain enveloped : RowSource) : Prop where
  plain : ∃ current, plain =
    .memory ⟨schema, rows.map fun e => (e.plain, none), some projection, current, false⟩
  enveloped : ∃ id current, enveloped = .envelope ⟨schema, some projection, id⟩
    (.memory ⟨Envelope.envelope schema, rows.map fun e => (e.enveloped, none),
      some Envelope.ordinals, current, false⟩)

namespace SameRows

variable {schema : StructType} {projection : List Nat} {rows : List EnvelopedRow} {s t : RowSource}

theorem next_nil (h : SameRows schema projection [] s t) :
    ∃ s' t', s.next = (.exhausted, s') ∧ t.next = (.exhausted, t') ∧
      SameRows schema projection [] s' t' := by
  obtain ⟨current, rfl⟩ := h.plain
  obtain ⟨id, current', rfl⟩ := h.enveloped
  exact ⟨_, _, rfl, rfl, ⟨_, rfl⟩, ⟨_, _, rfl⟩⟩

/-- Both hand out the same cells of the first row, and the source of envelopes tells its identity. -/
theorem next_cons {e : EnvelopedRow} (h : SameRows schema projection (e :: rows) s t) :
    ∃ s' t',
      s.next = (.row (.project (isWanted (some projection)) schema.size e.plain.values), s') ∧
      t.next = (.row (.project (isWanted (some projection)) schema.size e.plain.values), t') ∧
      s'.remaining = rows.length ∧ t'.isTransactional = true ∧ t'.recordId = some e.id ∧
      SameRows schema projection rows s' t' := by
  obtain ⟨current, rfl⟩ := h.plain
  obtain ⟨id, current', rfl⟩ := h.enveloped
  exact ⟨_, _, rfl, congrArg (·, _) (e.unwrap_enveloped ⟨schema, some projection, id⟩),
    List.length_map _, rfl, e.idOf_enveloped, ⟨_, rfl⟩, ⟨_, _, rfl⟩⟩

end SameRows

/-- The readers have these rows before them and are at the same point. -/
structure InStep (schema : StructType) (projection : List Nat) (withIds : Bool)
    (rows : List EnvelopedRow) (plain enveloped : RecordReader) : Prop where
  sources : SameRows schema projection rows plain.source enveloped.source
  isDone : enveloped.isDone = plain.isDone
  filter : enveloped.filter = plain.filter
  readsOnly : plain.filter.ReadsOnly
  read : enveloped.read = plain.read
  skipped : enveloped.skipped = plain.skipped
  attachIds : enveloped.attachIds = withIds

namespace InStep

variable {schema : StructType} {projection : List Nat} {withIds : Bool} {rows : List EnvelopedRow}
  {plain enveloped : RecordReader}

/-- What one call over the rows before the readers does: the calls are the same, and the readers and the
rows they leave are in step again. -/
structure Advances (schema : StructType) (projection : List Nat) (withIds : Bool)
    (all : List EnvelopedRow) (x y : Except Error Bool × RecordReader × Row) : Prop where
  same : SameCall all withIds x y
  row : ∃ id, y.2.2 = x.2.2.withId id
  readers : ∃ rest, rest <:+ all ∧ InStep schema projection withIds rest x.2.1 y.2.1

theorem advances_of_done {all : List EnvelopedRow}
    (h : InStep schema projection withIds rows plain enveloped) (hrows : rows <:+ all)
    (hdone : plain.isDone = true) (row : Row) (id : Option RecordId) :
    Advances schema projection withIds all (plain.next row) (enveloped.next (row.withId id)) := by
  rw [RecordReader.next_of_done hdone, RecordReader.next_of_done (h.isDone.trans hdone)]
  exact ⟨⟨rfl, rfl, h.read, h.skipped, nofun⟩, ⟨id, rfl⟩, ⟨rows, hrows, h⟩⟩

/-- The row handed out last stands before those that are left. -/
theorem getElem?_of_suffix {all : List EnvelopedRow} {e : EnvelopedRow} (h : e :: rows <:+ all) :
    all[all.length - (rows.length + 1)]? = some e := by
  obtain ⟨before, rfl⟩ := h
  rw [List.length_append, List.length_cons, Nat.add_sub_cancel,
    List.getElem?_append_right (Nat.le_refl _), Nat.sub_self, List.getElem?_cons_zero]

theorem advances {all : List EnvelopedRow}
    (h : InStep schema projection withIds rows plain enveloped) (hrows : rows <:+ all) (row : Row)
    (id : Option RecordId) :
    Advances schema projection withIds all (plain.next row) (enveloped.next (row.withId id)) := by
  -- A row that is left out calls for one more turn of the same call, with one row less to go.
  induction rows generalizing plain enveloped row id with
  | nil =>
    by_cases hdone : plain.isDone = true
    · exact h.advances_of_done hrows hdone row id
    have hdone := Bool.eq_false_iff.2 hdone
    obtain ⟨s, t, hs, ht, hsources⟩ := h.sources.next_nil
    rw [RecordReader.next_of_exhausted hdone hs,
      RecordReader.next_of_exhausted (h.isDone.trans hdone) ht]
    exact ⟨⟨rfl, rfl, h.read, h.skipped, nofun⟩, ⟨id, rfl⟩,
      ⟨[], hrows, { h with sources := hsources, isDone := rfl }⟩⟩
  | cons e rest ih =>
    by_cases hdone : plain.isDone = true
    · exact h.advances_of_done hrows hdone row id
    have hdone := Bool.eq_false_iff.2 hdone
    have hdone' := h.isDone.trans hdone
    have hrest : rest <:+ all := (List.suffix_cons e rest).trans hrows
    obtain ⟨s, t, hs, ht, hleft, htransactional, hid, hsources⟩ := h.sources.next_cons
    generalize hcells : Cells.project (isWanted (some projection)) schema.size e.plain.values = cells
      at hs ht
    obtain ⟨⟨result, row'⟩, haccept⟩ : ∃ x, plain.filter.accept (row.withCells cells) = x := ⟨_, rfl⟩
    have haccept' : enveloped.filter.accept ((row.withId id).withCells cells) =
        (result, row'.withId id) := by
      rw [h.filter]
      exact h.readsOnly.accept_withId haccept id
    match result with
    | .error failure =>
      rw [RecordReader.next_of_error hdone hs haccept, RecordReader.next_of_error hdone' ht haccept']
      exact ⟨⟨rfl, rfl, h.read, h.skipped, nofun⟩, ⟨id, rfl⟩,
        ⟨rest, hrest, { h with sources := hsources }⟩⟩
    | .ok false =>
      rw [RecordReader.next_of_reject hdone hs haccept, RecordReader.next_of_reject hdone' ht haccept']
      refine ih ?_ hrest row' id
      exact { h with sources := hsources, skipped := congrArg (· + 1) h.skipped }
    | .ok true =>
      rw [RecordReader.next_of_accept hdone hs haccept, RecordReader.next_of_accept hdone' ht haccept']
      have hread : enveloped.read + 1 = plain.read + 1 := congrArg (· + 1) h.read
      refine ⟨⟨rfl, rfl, hread, h.skipped, fun _ => ⟨e, ?_, ?_, ?_⟩⟩, ⟨_, rfl⟩,
        ⟨rest, hrest, { h with sources := hsources, read := hread }⟩⟩
      · rw [hleft]
        exact getElem?_of_suffix hrows
      · intro i
        rw [Row.withId, h.readsOnly.cells_eq haccept, Row.withCells, ← hcells]
        exact Cells.getD_project_or _ _ e.plain.values i
      · simp only [RecordReader.rowId, h.attachIds, htransactional, hid, Bool.and_true]
        rfl

theorem forall₂_calls {all : List EnvelopedRow}
    (h : InStep schema projection withIds rows plain enveloped) (hrows : rows <:+ all) (row : Row)
    (id : Option RecordId) (n : Nat) :
    List.Forall₂ (SameCall all withIds) (plain.calls row n) (enveloped.calls (row.withId id) n) := by
  induction n generalizing rows plain enveloped row id with
  | zero => exact .nil
  | succ n ih =>
    obtain ⟨hsame, ⟨id', hrow⟩, rest, hrest, hreaders⟩ := h.advances hrows row id
    refine .cons hsame ?_
    rw [hrow]
    exact ih hreaders hrest _ id'

end InStep

/-! ## Opening -/

namespace ScanPlan

/-- What is read of a source with a schema of its own, and the filter. -/
def settle (p : ScanPlan) (actual : StructType) : Except Error (List Nat × RowFilter) := do
  let resolved := p.resolve actual
  let requested ← p.requested resolved
  let argument? ← p.argument?
  let read ← (StructType.ofFields (readFields resolved requested argument?)).mapError .schema
  let projection ← ColumnProjection.ofRequest read actual p.config.mode
  let filter ← filter resolved argument?
  return (projection.ordinals, filter)

/-- The reader of a source whose columns were chosen. -/
def reader (p : ScanPlan) (source : RowSource) (filter : RowFilter) : RecordReader :=
  { RecordReader.ofSource source with filter := filter, attachIds := p.config.prependRowId }

/-- Over a source whose columns can be chosen at will. -/
theorem openOver_eq {p : ScanPlan} {source inner : RowSource} {schema : StructType}
    (hunwrap : p.unwrap source = .ok inner) (hschema : inner.schema = schema)
    (choose : List Nat → RowSource)
    (hproject : ∀ ordinals, inner.project ordinals = .ok (choose ordinals)) :
    p.openOver source =
      (p.settle schema).map fun settled => p.reader (choose settled.1) settled.2 := by
  subst hschema
  have hmap (x : Except Error (List Nat × RowFilter)) :
      (x.map fun settled => p.reader (choose settled.1) settled.2) =
        x >>= fun settled => pure (p.reader (choose settled.1) settled.2) := by cases x <;> rfl
  have hok {α β : Type} (a : α) (f : α → Except Error β) : (Except.ok a >>= f) = f a := rfl
  have hchosen (ordinals : List Nat) :
      (inner.project ordinals).mapError Error.storage = .ok (choose ordinals) := by
    rw [hproject]
    rfl
  -- The columns are chosen before the filter is made, which tells nothing since the choice succeeds.
  rw [hmap, openOver, settle, hunwrap]
  simp only [hok, hchosen, bind_assoc, pure_bind]
  rfl

theorem readsOnly_of_settle {p : ScanPlan} {actual : StructType} {ordinals : List Nat} {f : RowFilter}
    (h : p.settle actual = .ok (ordinals, f)) : f.ReadsOnly := by
  obtain ⟨_, _, h⟩ := bind_eq_ok_iff.1 h
  obtain ⟨_, _, h⟩ := bind_eq_ok_iff.1 h
  obtain ⟨_, _, h⟩ := bind_eq_ok_iff.1 h
  obtain ⟨_, _, h⟩ := bind_eq_ok_iff.1 h
  obtain ⟨_, hfilter, h⟩ := bind_eq_ok_iff.1 h
  cases h
  exact readsOnly_filter hfilter

/-- Over rows in memory a plan settles what to read in their schema. -/
theorem openOver_plainSource (p : ScanPlan) (hplain : p.config.transactional = false)
    (schema : StructType) (rows : List EnvelopedRow) :
    p.openOver (.memory (EnvelopedRow.plainSource schema rows)) =
      (p.settle schema).map fun settled =>
        p.reader (.memory ((EnvelopedRow.plainSource schema rows).project settled.1)) settled.2 := by
  have hunwrap : p.unwrap (.memory (EnvelopedRow.plainSource schema rows)) =
      .ok (.memory (EnvelopedRow.plainSource schema rows)) := by
    rw [unwrap, hplain]
    rfl
  exact openOver_eq hunwrap rfl
    (fun ordinals => .memory ((EnvelopedRow.plainSource schema rows).project ordinals)) fun _ => rfl

/-- Over envelopes a plan settles what to read in the schema of the rows inside. -/
theorem openOver_envelopeSource (p : ScanPlan) (htransactional : p.config.transactional = true)
    (schema : StructType) (rows : List EnvelopedRow) :
    p.openOver (.memory (EnvelopedRow.envelopeSource schema rows)) =
      (p.settle schema).map fun settled =>
        p.reader (.envelope ⟨schema, some settled.1, none⟩
            (.memory ((EnvelopedRow.envelopeSource schema rows).project Envelope.ordinals)))
          settled.2 := by
  have hunwrap : p.unwrap (.memory (EnvelopedRow.envelopeSource schema rows)) =
      .ok (.envelope ⟨schema, none, none⟩ (.memory (EnvelopedRow.envelopeSource schema rows))) := by
    have hstruct : Envelope.rowStruct (RowSource.schema (.memory
        (EnvelopedRow.envelopeSource schema rows))) = .ok schema := Envelope.rowStruct_envelope schema
    rw [unwrap, htransactional, RowSource.ofEnvelopes, hstruct]
    rfl
  exact openOver_eq hunwrap rfl
    (fun ordinals => .envelope ⟨schema, some ordinals, none⟩
      (.memory ((EnvelopedRow.envelopeSource schema rows).project Envelope.ordinals))) fun _ => rfl

theorem inStep_reader {p q : ScanPlan} (hids : q.config.prependRowId = p.config.prependRowId)
    {filter : RowFilter} (hfilter : filter.ReadsOnly) (schema : StructType) (ordinals : List Nat)
    (rows : List EnvelopedRow) :
    InStep schema ordinals p.config.prependRowId rows
      (p.reader (.memory ((EnvelopedRow.plainSource schema rows).project ordinals)) filter)
      (q.reader (.envelope ⟨schema, some ordinals, none⟩
        (.memory ((EnvelopedRow.envelopeSource schema rows).project Envelope.ordinals))) filter) where
  sources := by
    constructor
    · refine ⟨none, ?_⟩
      rw [reader, EnvelopedRow.plainSource, MemorySource.ofRows, List.map_map]
      rfl
    · refine ⟨none, none, ?_⟩
      rw [reader, EnvelopedRow.envelopeSource, MemorySource.ofRows, List.map_map]
      rfl
  isDone := rfl
  filter := rfl
  readsOnly := hfilter
  read := rfl
  skipped := rfl
  attachIds := hids

theorem ofConfig_of_check {c : ScanConfig} (h : c.check = .ok ()) : ofConfig c = .ok ⟨c, h⟩ := by
  unfold ofConfig
  split
  · rfl
  next e he =>
    rw [h] at he
    cases he

theorem ofConfig_of_check_error {c : ScanConfig} {e : ConfigError} (h : c.check = .error e) :
    ofConfig c = .error e := by
  unfold ofConfig
  split
  next he =>
    rw [h] at he
    cases he
  next e' he =>
    rw [h] at he
    cases he
    rfl

end ScanPlan

namespace ScanConfig

/-- Opens what the description says over a source. -/
def openOver (c : ScanConfig) (source : RowSource) : Except Error RecordReader := do
  let plan ← (ScanPlan.ofConfig c).mapError .config
  plan.openOver source

theorem openOver_of_check {c : ScanConfig} (h : c.check = .ok ()) (source : RowSource) :
    c.openOver source = (ScanPlan.mk c h).openOver source := by
  rw [openOver, ScanPlan.ofConfig_of_check h]
  rfl

theorem openOver_of_check_error {c : ScanConfig} {e : ConfigError} (h : c.check = .error e)
    (source : RowSource) : c.openOver source = .error (.config e) := by
  rw [openOver, ScanPlan.ofConfig_of_check_error h]
  rfl

/-- The same scan of rows in envelopes. -/
def inEnvelopes (c : ScanConfig) : ScanConfig := { c with transactional := true }

/-- A scan opens over envelopes as it does over the rows inside, or is refused for the same reason, and
then every call over envelopes does what the call over the rows does. -/
theorem openOver_envelopes {c : ScanConfig} (hplain : c.transactional = false) (schema : StructType)
    (rows : List EnvelopedRow) :
    (match c.openOver (.memory (EnvelopedRow.plainSource schema rows)),
        c.inEnvelopes.openOver (.memory (EnvelopedRow.envelopeSource schema rows)) with
      | .ok r, .ok r' => r'.createRow = r.createRow ∧
        ∀ row n, List.Forall₂ (SameCall rows c.prependRowId) (r.calls row n) (r'.calls row n)
      | .error e, .error e' => e' = e
      | _, _ => False) ∧
    Envelope.rowStruct (Envelope.envelope schema) = .ok schema ∧
    StructType.ofFields (Envelope.envelope schema).fields = .ok (Envelope.envelope schema) := by
  refine ⟨?_, Envelope.rowStruct_envelope schema, StructType.ofFields_fields _⟩
  -- The check does not look at the switch.
  cases hcheck : c.check with
  | error e =>
    have hcheck' : c.inEnvelopes.check = .error e := hcheck
    rw [openOver_of_check_error hcheck, openOver_of_check_error hcheck']
  | ok =>
    have hcheck' : c.inEnvelopes.check = .ok () := hcheck
    -- The plans differ in the switch alone, which nothing but the source is chosen by.
    have hsettle : (ScanPlan.mk c.inEnvelopes hcheck').settle schema =
        (ScanPlan.mk c hcheck).settle schema := rfl
    rw [openOver_of_check hcheck, openOver_of_check hcheck', ScanPlan.openOver_plainSource _ hplain,
      ScanPlan.openOver_envelopeSource _ rfl, hsettle]
    cases hsettled : (ScanPlan.mk c hcheck).settle schema with
    | error e => rfl
    | ok settled =>
      have hstep := ScanPlan.inStep_reader (p := ⟨c, hcheck⟩) (q := ⟨c.inEnvelopes, hcheck'⟩) rfl
        (ScanPlan.readsOnly_of_settle hsettled) schema settled.1 rows
      exact ⟨rfl, fun row n => hstep.forall₂_calls (List.suffix_refl rows) row row.id n⟩

/-- The names of cheap wares, with the identities of their rows. -/
def cheapWares : ScanConfig where
  schema := .fromSource
  columns := some ["NAME"]
  searchArgument := some ("\x7b\"leaves\":[\x7b\"operator\":\"LessThan\",\"column\":\"price\"," ++
    "\"literals\":[\x7b\"Long\":5\x7d]\x7d],\"expression\":\x7b\"Leaf\":0\x7d\x7d")
  prependRowId := true

/-- The schema of wares. -/
def wareSchema : StructType :=
  ⟨[⟨"price", .primitive .int⟩, ⟨"Name", .primitive .string⟩], by decide +kernel⟩

/-- A dear ware, and a cheap one whose row has a cell too many. -/
def wareRows : List EnvelopedRow :=
  [⟨⟨1, 0, 10⟩, .scalar (.int 0), .scalar (.long 7), [.scalar (.int 7), .scalar (.string "desk")]⟩,
    ⟨⟨1, 0, 11⟩, .null, .scalar (.long 7),
      [.scalar (.int 3), .scalar (.string "pen"), .scalar (.boolean true)]⟩]

theorem openOver_envelopes_cheapWares :
    ∃ r r', cheapWares.openOver (.memory (EnvelopedRow.plainSource wareSchema wareRows)) = .ok r ∧
      cheapWares.inEnvelopes.openOver
        (.memory (EnvelopedRow.envelopeSource wareSchema wareRows)) = .ok r' ∧
      List.Forall₂ (SameCall wareRows true) (r.calls r.createRow 3) (r'.calls r'.createRow 3) := by
  have hopen : (cheapWares.openOver
      (.memory (EnvelopedRow.plainSource wareSchema wareRows))).isOk = true := by decide +kernel
  have hmatch := (openOver_envelopes (c := cheapWares) rfl wareSchema wareRows).1
  cases hplain : cheapWares.openOver (.memory (EnvelopedRow.plainSource wareSchema wareRows)) with
  | error e =>
    rw [hplain] at hopen
    cases hopen
  | ok r =>
    rw [hplain] at hmatch
    cases henveloped : cheapWares.inEnvelopes.openOver
        (.memory (EnvelopedRow.envelopeSource wareSchema wareRows)) with
    | error e =>
      rw [henveloped] at hmatch
      exact hmatch.elim
    | ok r' =>
      rw [henveloped] at hmatch
      obtain ⟨hrow, hcalls⟩ := hmatch
      exact ⟨r, r', rfl, rfl, hrow ▸ hcalls r.createRow 3⟩

end ScanConfig

end ColumnScan
