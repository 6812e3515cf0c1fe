import ColumnScan.Proofs.Row.Cells
import ColumnScan.Proofs.Row.Recall
import ColumnScan.Proofs.Schema.Lookup

/-!
# Calls of a row

What a row remembers of the names looked up in it cannot be observed: whatever is called in whatever
order, with names in any case and other cells put in between, every answer is that of a row that
remembers nothing, which looks for the field of the name among all fields and makes its converter anew at
every call. A write changes the cell of its field alone, and nothing if it fails. Main statement:
`calls_ofSchema`.
-/

namespace ColumnScan

/-! ## Calls and their answers -/

/-- A call of a row. -/
inductive RowCall where
  | get (name : String)
  | stored (name : String)
  | set (name : String) (value : Native)
  | nativeValues
  | clear
  | setId (id : Option RecordId)
  | replace (cells : Cells)

/-- What a call answers. -/
inductive RowAnswer where
  | value (result : Except Error Native)
  | stored (result : Except Error (Option Stored))
  | written (result : Except Error Unit)
  | values (result : Except Error (List Native))
  | done

namespace Row

/-- Makes a call. -/
def call (r : Row) : RowCall → RowAnswer × Row
  | .get name => (.value (r.get name).1, (r.get name).2)
  | .stored name => (.stored (r.stored? name).1, (r.stored? name).2)
  | .set name value => (.written (r.set name value).1, (r.set name value).2)
  | .nativeValues => (.values r.nativeValues.1, r.nativeValues.2)
  | .clear => (.done, r.clear)
  | .setId id => (.done, r.withId id)
  | .replace cells => (.done, r.withCells cells)

/-- Makes some calls one after the other. -/
def calls (r : Row) : List RowCall → List RowAnswer × Row
  | [] => ([], r)
  | c :: rest => ((r.call c).1 :: ((r.call c).2.calls rest).1, ((r.call c).2.calls rest).2)

end Row

/-! ## A row that remembers nothing -/

/-- Cells and an identity. -/
structure PlainRow where
  cells : Cells
  id : Option RecordId := none

namespace PlainRow

/-- The field whose name is the name asked for, case aside, and its position. -/
def column? (schema : StructType) (name : String) : Option (Field × Nat) :=
  schema.fields.zipIdx.find? fun p => Text.lowercase p.1.name == Text.lowercase name

/-- A converter of the column, made anew. -/
def converter (field : Field) : Except Error Converter :=
  (ConverterFactory.stock.build field.type).mapError .schema

/-- A failure of the converter of a column. -/
def failure (field : Field) (e : ConvertError) : Error := .convert (.field field.name e)

/-- The value of the cell at a position on the application's side. -/
def read (r : PlainRow) (field : Field) (ordinal : Nat) : Except Error Native := do
  let c ← converter field
  match r.cells.get? ordinal with
  | some v => (c.toNative v).mapError (failure field)
  | none => return .null

/-- The value of a column on the application's side. -/
def get (schema : StructType) (r : PlainRow) (name : String) : Except Error Native :=
  match column? schema name with
  | some (field, ordinal) => r.read field ordinal
  | none => .ok .null

/-- The value of a column as it is stored. -/
def stored? (schema : StructType) (r : PlainRow) (name : String) : Except Error (Option Stored) :=
  match column? schema name with
  | some (field, ordinal) => do
    let _ ← converter field
    return r.cells.get? ordinal
  | none => .ok none

/-- The cells after a value was written. -/
def written (schema : StructType) (r : PlainRow) (name : String) (value : Native) :
    Except Error Cells :=
  match column? schema name with
  | some (field, ordinal) => do
    let c ← converter field
    let v ← (c.toStored value).mapError (failure field)
    return r.cells.put ordinal v
  | none => .ok r.cells

/-- Makes a call. -/
def call (schema : StructType) (r : PlainRow) : RowCall → RowAnswer × PlainRow
  | .get name => (.value (r.get schema name), r)
  | .stored name => (.stored (r.stored? schema name), r)
  | .set name value =>
    match r.written schema name value with
    | .ok cells => (.written (.ok ()), { r with cells := cells })
    | .error e => (.written (.error e), r)
  | .nativeValues => (.values (schema.fields.zipIdx.mapM fun p => r.read p.1 p.2), r)
  | .clear => (.done, ⟨r.cells.clear, none⟩)
  | .setId id => (.done, { r with id := id })
  | .replace cells => (.done, { r with cells := cells })

/-- Makes some calls one after the other. -/
def calls (schema : StructType) (r : PlainRow) : List RowCall → List RowAnswer × PlainRow
  | [] => ([], r)
  | c :: rest =>
    ((r.call schema c).1 :: ((r.call schema c).2.calls schema rest).1,
      ((r.call schema c).2.calls schema rest).2)

variable {schema : StructType} {name : String} {ordinal : Nat} {field : Field}

theorem column?_eq_some_iff :
    column? schema name = some (field, ordinal) ↔ schema.Means name ordinal field := by
  have hmeans : ∀ {p : Field × Nat}, column? schema name = some p → schema.Means name p.2 p.1 := by
    intro p h
    have hname : (Text.lowercase p.1.name == Text.lowercase name) = true :=
      (List.find?_eq_some_iff_append.1 h).1
    exact ⟨List.mem_zipIdx_iff_getElem?.1 (List.mem_of_find?_eq_some h), eq_of_beq hname⟩
  refine ⟨fun h => hmeans h, fun h => ?_⟩
  cases hfound : column? schema name with
  | none =>
    have hmem : (field, ordinal) ∈ schema.fields.zipIdx := List.mem_zipIdx_iff_getElem?.2 h.1
    rw [column?, List.find?_eq_none] at hfound
    have hother := hfound (field, ordinal) hmem
    rw [beq_iff_eq] at hother
    exact absurd h.2 hother
  | some p =>
    obtain ⟨hordinal, hfield⟩ := h.unique (hmeans hfound)
    rw [hordinal, hfield]

theorem column?_eq_none (h : ∀ i field, ¬schema.Means name i field) : column? schema name = none := by
  refine List.find?_eq_none.2 fun p hp hname => ?_
  exact h p.2 p.1 ⟨List.mem_zipIdx_iff_getElem?.1 hp, eq_of_beq hname⟩

variable {p : PlainRow}

theorem answers_absent (h : column? schema name = none) :
    p.get schema name = .ok .null ∧ p.stored? schema name = .ok none ∧
      ∀ value, p.written schema name value = .ok p.cells := by
  simp only [get, stored?, written, h, implies_true, and_self]

theorem answers_refused (h : column? schema name = some (field, ordinal)) {e : SchemaError}
    (he : ConverterFactory.stock.build field.type = .error e) :
    p.get schema name = .error (.schema e) ∧ p.stored? schema name = .error (.schema e) ∧
      ∀ value, p.written schema name value = .error (.schema e) := by
  simp only [get, stored?, written, read, converter, h, he, Except.mapError, bind, Except.bind,
    implies_true, and_self]

theorem answers_found (h : column? schema name = some (field, ordinal)) {c : Converter}
    (hc : ConverterFactory.stock.build field.type = .ok c) :
    p.get schema name =
        (match p.cells.get? ordinal with
          | some v => (c.toNative v).mapError (failure field)
          | none => .ok .null) ∧
      p.stored? schema name = .ok (p.cells.get? ordinal) ∧
      ∀ value, p.written schema name value =
        ((c.toStored value).mapError (failure field)).map (p.cells.put ordinal) := by
  simp only [get, stored?, written, read, converter, h, hc, Except.mapError, bind, Except.bind, pure,
    Except.pure, true_and]
  intro value
  cases c.toStored value <;> rfl

end PlainRow

/-! ## Call by call -/

namespace Row

/-- The rows hold the same, and the first one asks stock converters for the columns of the schema. -/
structure Holds (schema : StructType) (r : Row) (p : PlainRow) : Prop where
  schema : r.schema = schema
  factory : r.factory = .stock
  cells : r.cells = p.cells
  id : r.id = p.id

variable {schema : StructType} {r r' : Row} {p : PlainRow}

theorem Holds.like (h : r.Holds schema p) (hlike : r.Like r') : r'.Holds schema p :=
  ⟨hlike.schema.trans h.schema, hlike.factory.trans h.factory, hlike.cells.trans h.cells,
    hlike.id.trans h.id⟩

theorem Holds.accessor_eq (h : r.Holds schema p) (name : String) :
    r.accessor name =
      match PlainRow.column? schema name with
      | some (field, ordinal) =>
        (ConverterFactory.stock.build field.type).map (.present ordinal field.name)
      | none => .ok .absent := by
  have hfind : r.accessor name = Accessor.find schema .stock (Text.lowercase name) := by
    rw [accessor, h.schema, h.factory]
  have hlookup : schema.lookupKey? (Text.lowercase name) = schema.lookup? name := rfl
  rw [hfind, Accessor.find, hlookup]
  cases hcolumn : PlainRow.column? schema name with
  | some column =>
    obtain ⟨field, ordinal⟩ := column
    have hmeans := PlainRow.column?_eq_some_iff.1 hcolumn
    rw [hmeans.lookup?_eq]
  | none =>
    have hnone : ∀ i field, ¬schema.Means name i field := by
      intro i field hmeans
      rw [PlainRow.column?_eq_some_iff.2 hmeans] at hcolumn
      cases hcolumn
    rw [StructType.lookup?_eq_none hnone]

theorem Holds.get_eq (h : r.Holds schema p) (name : String) :
    ∃ r', r.get name = (p.get schema name, r') ∧ r'.Holds schema p := by
  obtain ⟨r', hlike, hget⟩ := get_spec r name
  refine ⟨r', ?_, h.like hlike⟩
  rw [hget, h.accessor_eq, h.cells, PlainRow.get]
  congr 1
  cases PlainRow.column? schema name with
  | none => rfl
  | some column =>
    obtain ⟨field, ordinal⟩ := column
    simp only [PlainRow.read, PlainRow.converter]
    cases ConverterFactory.stock.build field.type with
    | error e => rfl
    | ok c =>
      simp only [Except.map, Except.mapError, bind, Except.bind, Accessor.get]
      cases p.cells.get? ordinal with
      | none => rfl
      | some v =>
        simp only
        cases c.toNative v <;> rfl

theorem Holds.stored?_eq (h : r.Holds schema p) (name : String) :
    ∃ r', r.stored? name = (p.stored? schema name, r') ∧ r'.Holds schema p := by
  obtain ⟨r', hlike, hstored⟩ := stored?_spec r name
  refine ⟨r', ?_, h.like hlike⟩
  rw [hstored, h.accessor_eq, h.cells, PlainRow.stored?]
  congr 1
  cases PlainRow.column? schema name with
  | none => rfl
  | some column =>
    obtain ⟨field, ordinal⟩ := column
    simp only [PlainRow.converter]
    cases ConverterFactory.stock.build field.type <;> rfl

theorem Holds.set_eq (h : r.Holds schema p) (name : String) (value : Native) :
    ∃ r', r'.Holds schema p ∧ r.set name value =
      match p.written schema name value with
      | .ok cells => (.ok (), r'.withCells cells)
      | .error e => (.error e, r') := by
  obtain ⟨r', hlike, hset⟩ := set_spec r name value
  refine ⟨r', h.like hlike, ?_⟩
  rw [hset, h.accessor_eq, h.cells, PlainRow.written]
  congr 1
  cases PlainRow.column? schema name with
  | none => rfl
  | some column =>
    obtain ⟨field, ordinal⟩ := column
    simp only [PlainRow.converter]
    cases ConverterFactory.stock.build field.type with
    | error e => rfl
    | ok c =>
      simp only [Except.map, Except.mapError, bind, Except.bind, Accessor.set]
      cases c.toStored value <;> rfl

theorem Holds.getEach_eq (h : r.Holds schema p) (names : List String) :
    ∃ r', r.getEach names = (names.mapM (p.get schema), r') ∧ r'.Holds schema p := by
  induction names generalizing r with
  | nil => exact ⟨r, rfl, h⟩
  | cons name names ih =>
    obtain ⟨r', hget, h'⟩ := h.get_eq name
    obtain ⟨r'', hrest, h''⟩ := ih h'
    rw [getEach, hget, List.mapM_cons]
    cases p.get schema name with
    | error e => exact ⟨r', rfl, h'⟩
    | ok value =>
      refine ⟨r'', ?_, h''⟩
      simp only [hrest, bind, Except.bind, pure, Except.pure]
      cases names.mapM (p.get schema) <;> rfl

/-- Names in the order of the schema read position by position. -/
theorem mapM_get_names (p : PlainRow) :
    schema.names.mapM (p.get schema) = schema.fields.zipIdx.mapM fun c => p.read c.1 c.2 := by
  have hnames : schema.names = schema.fields.zipIdx.map fun c => c.1.name := by
    rw [StructType.names]
    conv_lhs => rw [← List.zipIdx_map_fst 0 schema.fields, List.map_map]
    rfl
  rw [hnames, List.mapM_map]
  refine mapM_congr fun c hc => ?_
  have hmeans : schema.Means c.1.name c.2 c.1 := ⟨List.mem_zipIdx_iff_getElem?.1 hc, rfl⟩
  rw [Function.comp_apply, PlainRow.get, PlainRow.column?_eq_some_iff.2 hmeans]

/-- A call answers the same and leaves the same. -/
theorem Holds.call_eq (h : r.Holds schema p) (c : RowCall) :
    (r.call c).1 = (p.call schema c).1 ∧ (r.call c).2.Holds schema (p.call schema c).2 := by
  cases c with
  | get name =>
    obtain ⟨r', hget, h'⟩ := h.get_eq name
    rw [call, hget]
    exact ⟨rfl, h'⟩
  | stored name =>
    obtain ⟨r', hstored, h'⟩ := h.stored?_eq name
    rw [call, hstored]
    exact ⟨rfl, h'⟩
  | set name value =>
    obtain ⟨r', h', hset⟩ := h.set_eq name value
    rw [call, hset, PlainRow.call]
    cases p.written schema name value with
    | error e => exact ⟨rfl, h'⟩
    | ok cells => exact ⟨rfl, h'.schema, h'.factory, rfl, h'.id⟩
  | nativeValues =>
    obtain ⟨r', heach, h'⟩ := h.getEach_eq schema.names
    rw [call, nativeValues, h.schema, heach, PlainRow.call, mapM_get_names]
    exact ⟨rfl, h'⟩
  | clear => exact ⟨rfl, h.schema, h.factory, congrArg Cells.clear h.cells, rfl⟩
  | setId id => exact ⟨rfl, h.schema, h.factory, h.cells, rfl⟩
  | replace cells => exact ⟨rfl, h.schema, h.factory, rfl, h.id⟩

theorem Holds.calls_eq (h : r.Holds schema p) (cs : List RowCall) :
    (r.calls cs).1 = (p.calls schema cs).1 ∧ (r.calls cs).2.Holds schema (p.calls schema cs).2 := by
  induction cs generalizing r p with
  | nil => exact ⟨rfl, h⟩
  | cons c cs ih =>
    obtain ⟨hanswer, hholds⟩ := h.call_eq c
    obtain ⟨hanswers, hrest⟩ := ih hholds
    exact ⟨congrArg₂ List.cons hanswer hanswers, hrest⟩

end Row

/-! ## One call at a time -/

/-- The cells were written at a position: no other cell there was is another one, and cells between are
null. -/
structure Cells.WrittenAt (before : Cells) (ordinal : Nat) (value : Stored) (after : Cells) : Prop where
  here : after.get? ordinal = some value
  others : ∀ i, i < before.size → i ≠ ordinal → after.get? i = before.get? i
  between : ∀ i, before.size ≤ i → i < ordinal → after.get? i = some .null
  size : after.size = max before.size (ordinal + 1)

theorem Cells.writtenAt_put (c : Cells) (ordinal : Nat) (value : Stored) :
    c.WrittenAt ordinal value (c.put ordinal value) where
  here := get_put_self c ordinal value
  others i hi hne := by
    rw [put, get?, List.getElem?_set_ne hne.symm, padTo, List.getElem?_append_left hi]
    rfl
  between i hi hlt := by
    have hle : c.values.length ≤ i := hi
    rw [put, get?, List.getElem?_set_ne (Nat.ne_of_gt hlt), padTo, List.getElem?_append_right hle,
      List.getElem?_replicate]
    exact if_pos (by omega)
  size := size_put c ordinal value

namespace Row

/-- What a name means tells what reading and writing by it do. -/
structure Faithful (r : Row) : Prop where
  /-- A name that means nothing reads as null and as no cell, and what is written to it is ignored. -/
  absent : ∀ name, (∀ i field, ¬r.schema.Means name i field) →
    (r.get name).1 = .ok .null ∧ (r.stored? name).1 = .ok none ∧
      ∀ value, (r.set name value).1 = .ok () ∧ (r.set name value).2.cells = r.cells
  /-- A column without a converter is refused in the same way by every call. -/
  refused : ∀ name i field e, r.schema.Means name i field →
    ConverterFactory.stock.build field.type = .error e →
      (r.get name).1 = .error (.schema e) ∧ (r.stored? name).1 = .error (.schema e) ∧
        ∀ value, (r.set name value).1 = .error (.schema e) ∧ (r.set name value).2.cells = r.cells
  /-- Any other column is read and written by its converter, whose failures are told with the name
  that was declared. -/
  found : ∀ name i field c, r.schema.Means name i field →
    ConverterFactory.stock.build field.type = .ok c →
      (r.get name).1 =
          (match r.cells.get? i with
            | some v => (c.toNative v).mapError fun e => .convert (.field field.name e)
            | none => .ok .null) ∧
        (r.stored? name).1 = .ok (r.cells.get? i) ∧
        ∀ value,
          (∀ e, c.toStored value = .error e →
            (r.set name value).1 = .error (.convert (.field field.name e)) ∧
              (r.set name value).2.cells = r.cells) ∧
          ∀ v, c.toStored value = .ok v →
            (r.set name value).1 = .ok () ∧ r.cells.WrittenAt i v (r.set name value).2.cells
  /-- Writing a value never touches the identity. -/
  id : ∀ name value, (r.set name value).2.id = r.id

variable {schema : StructType} {r : Row} {p : PlainRow}

theorem Holds.faithful (h : r.Holds schema p) : r.Faithful := by
  have hget : ∀ name, (r.get name).1 = p.get schema name := by
    intro name
    obtain ⟨r', hget, _⟩ := h.get_eq name
    rw [hget]
  have hstored : ∀ name, (r.stored? name).1 = p.stored? schema name := by
    intro name
    obtain ⟨r', hstored, _⟩ := h.stored?_eq name
    rw [hstored]
  have hset : ∀ name value, (r.set name value).1 = (p.written schema name value).map (fun _ => ()) ∧
      (r.set name value).2.cells = (p.written schema name value).toOption.getD r.cells ∧
      (r.set name value).2.id = r.id := by
    intro name value
    obtain ⟨r', h', hset⟩ := h.set_eq name value
    rw [hset]
    cases p.written schema name value with
    | ok cells => exact ⟨rfl, rfl, h'.id.trans h.id.symm⟩
    | error e => exact ⟨rfl, h'.cells.trans h.cells.symm, h'.id.trans h.id.symm⟩
  obtain rfl := h.schema
  refine ⟨fun name hname => ?_, fun name i field e hmeans he => ?_, fun name i field c hmeans hc => ?_,
    fun name value => (hset name value).2.2⟩
  · obtain ⟨hread, hcell, hwritten⟩ := p.answers_absent (PlainRow.column?_eq_none hname)
    refine ⟨(hget name).trans hread, (hstored name).trans hcell, fun value => ?_⟩
    obtain ⟨hresult, hcells, _⟩ := hset name value
    rw [hresult, hcells, hwritten]
    exact ⟨rfl, h.cells.symm⟩
  · obtain ⟨hread, hcell, hwritten⟩ :=
      p.answers_refused (PlainRow.column?_eq_some_iff.2 hmeans) he
    refine ⟨(hget name).trans hread, (hstored name).trans hcell, fun value => ?_⟩
    obtain ⟨hresult, hcells, _⟩ := hset name value
    rw [hresult, hcells, hwritten]
    exact ⟨rfl, rfl⟩
  · obtain ⟨hread, hcell, hwritten⟩ :=
      p.answers_found (PlainRow.column?_eq_some_iff.2 hmeans) hc
    rw [← h.cells] at hread hcell hwritten
    refine ⟨(hget name).trans hread, (hstored name).trans hcell, fun value => ?_⟩
    obtain ⟨hresult, hcells, _⟩ := hset name value
    rw [hresult, hcells, hwritten]
    constructor
    · intro e he
      rw [he]
      exact ⟨rfl, rfl⟩
    · intro v hv
      rw [hv]
      exact ⟨rfl, r.cells.writtenAt_put i v⟩

/-- Whatever is called, every answer is that of a row that remembers nothing, and the row holds what that
one holds; and each next call is told by what its name means. -/
theorem calls_ofSchema {schema : StructType} (cs : List RowCall) :
    ((ofSchema schema .stock).calls cs).1 = (PlainRow.calls schema ⟨.nulls schema.size, none⟩ cs).1 ∧
      ((ofSchema schema .stock).calls cs).2.Holds schema
        (PlainRow.calls schema ⟨.nulls schema.size, none⟩ cs).2 ∧
      ((ofSchema schema .stock).calls cs).2.Faithful := by
  have hholds : (ofSchema schema .stock).Holds schema ⟨.nulls schema.size, none⟩ := ⟨rfl, rfl, rfl, rfl⟩
  obtain ⟨hanswers, hreached⟩ := hholds.calls_eq cs
  exact ⟨hanswers, hreached, hreached.faithful⟩

/-- A level in two characters, and a flow whose type is not valid. -/
def gauges : StructType :=
  ⟨[⟨"Level", .primitive (.char 2)⟩, ⟨"Flow", .primitive (.decimal 0 0)⟩], by decide +kernel⟩

/-- A write, a look at what was stored, a write that fails after the cells were taken away, and names
that mean the other column and none. -/
def gaugeCalls : List RowCall :=
  [.set "LEVEL" (.scalar (.string "low")), .stored "level", .replace ⟨[]⟩, .get "Level",
    .set "level" (.scalar (.boolean true)), .get "flow", .get "depth"]

theorem calls_ofSchema_gauges :
    ((ofSchema gauges .stock).calls gaugeCalls).1 =
      [.written (.ok ()), .stored (.ok (some (.char (.cut "lo" 2)))), .done, .value (.ok .null),
        .written (.error (.convert (.field "Level"
          (.mismatch (.native (.scalar (.boolean true))) (.scalar (.char 2)))))),
        .value (.error (.schema (.invalidType (.primitive (.decimal 0 0)) .precision))),
        .value (.ok .null)] := by
  rw [(calls_ofSchema gaugeCalls).1]
  rfl

end Row

end ColumnScan
