import ColumnScan.Proofs.Convert.Agreement
import ColumnScan.Proofs.Row.Calls
import ColumnScan.Scan.Writer

/-!
# Rows of valid schemas

In a schema whose types are all valid every name has a meaning, so that looking a name up in a row
cannot fail: what a call of the row may fail of is a value that cannot be converted. Main statements:
`Row.Sound.reads`, `Row.Sound.call` and `DataType.build_agrees_with_validate`.
-/

namespace ColumnScan

/-- A name of a valid column has a meaning, and so does a name of none. -/
theorem Accessor.exists_find {schema : StructType} {key : String}
    (valid : ∀ i field, schema.lookupKey? key = some (i, field) → field.type.validate = .ok ()) :
    ∃ a, find schema .stock key = .ok a := by
  rw [find]
  cases hfound : schema.lookupKey? key with
  | none => exact ⟨.absent, rfl⟩
  | some found =>
    obtain ⟨ordinal, field⟩ := found
    obtain ⟨c, hc⟩ := ConverterFactory.exists_build_of_validate (valid ordinal field hfound)
    refine ⟨.present ordinal field.name c, ?_⟩
    show (ConverterFactory.stock.build field.type).map _ = _
    rw [hc]
    rfl

/-- Anything but a bad schema. -/
def Error.BesidesSchema (e : Error) : Prop := ∀ fault, e ≠ .schema fault

/-- If the call fails, then for a reason of this sort. -/
def RowAnswer.FailsBy (P : Error → Prop) : RowAnswer → Prop
  | .value result => ColumnScan.FailsBy P result
  | .stored result => ColumnScan.FailsBy P result
  | .written result => ColumnScan.FailsBy P result
  | .values result => ColumnScan.FailsBy P result
  | .done => True

theorem failsBy_mapError_convert {α : Type} (x : Except ConvertError α) :
    FailsBy Error.BesidesSchema (x.mapError .convert) :=
  FailsBy.mapError Error.convert fun _ _ => nofun

namespace Row

/-- The converters are the stock ones, and the column of this name is valid if the row has one. -/
structure Reads (r : Row) (name : String) : Prop where
  valid : ∀ ordinal field, r.schema.lookup? name = some (ordinal, field) →
    field.type.validate = .ok ()
  factory : r.factory = .stock

/-- A row of a valid schema with the stock converters. -/
structure Sound (r : Row) : Prop where
  valid : r.schema.validate = .ok ()
  factory : r.factory = .stock

variable {r r' : Row}

/-- Looking the name up succeeds. -/
theorem Reads.exists_accessor {name : String} (h : r.Reads name) : ∃ a, r.accessor name = .ok a := by
  rw [accessor, h.factory]
  exact Accessor.exists_find h.valid

theorem Reads.exists_stored {name : String} (h : r.Reads name) :
    ∃ cell, (r.stored? name).1 = .ok cell := by
  obtain ⟨_, _, hstored⟩ := stored?_spec r name
  obtain ⟨a, ha⟩ := h.exists_accessor
  rw [hstored, ha]
  exact ⟨a.stored? r.cells, rfl⟩

theorem Sound.like (h : r.Sound) (hlike : r.Like r') : r'.Sound :=
  ⟨hlike.schema ▸ h.valid, hlike.factory.trans h.factory⟩

/-- In a valid schema every name has a meaning, be it that of no column. -/
theorem Sound.reads (h : r.Sound) (name : String) : r.Reads name where
  valid ordinal field hfound := by
    obtain ⟨_, hfield, _⟩ := StructType.lookupKey?_eq_some hfound
    exact DataType.validate_of_validateFields h.valid field (List.mem_of_getElem? hfield)
  factory := h.factory

theorem Sound.exists_accessor (h : r.Sound) (name : String) : ∃ a, r.accessor name = .ok a :=
  (h.reads name).exists_accessor

theorem Sound.get (h : r.Sound) (name : String) :
    FailsBy Error.BesidesSchema (r.get name).1 ∧ (r.get name).2.Sound := by
  obtain ⟨r', hlike, hget⟩ := get_spec r name
  obtain ⟨a, ha⟩ := h.exists_accessor name
  rw [hget, ha]
  exact ⟨failsBy_mapError_convert (a.get r.cells), h.like hlike⟩

theorem Sound.stored (h : r.Sound) (name : String) :
    FailsBy Error.BesidesSchema (r.stored? name).1 ∧ (r.stored? name).2.Sound := by
  obtain ⟨r', hlike, hstored⟩ := stored?_spec r name
  obtain ⟨a, ha⟩ := h.exists_accessor name
  rw [hstored, ha]
  exact ⟨failsBy_ok (a.stored? r.cells), h.like hlike⟩

theorem Sound.set (h : r.Sound) (name : String) (value : Native) :
    FailsBy Error.BesidesSchema (r.set name value).1 ∧ (r.set name value).2.Sound := by
  obtain ⟨r', hlike, hset⟩ := set_spec r name value
  obtain ⟨a, ha⟩ := h.exists_accessor name
  have hfails : FailsBy Error.BesidesSchema ((r.accessor name).mapError Error.schema >>= fun a =>
      (a.set r.cells value).mapError Error.convert) := by
    rw [ha]
    exact failsBy_mapError_convert (a.set r.cells value)
  rw [hset]
  cases hwritten : (r.accessor name).mapError Error.schema >>= fun a =>
      (a.set r.cells value).mapError Error.convert with
  | ok cells => exact ⟨failsBy_ok (), (h.like hlike).valid, (h.like hlike).factory⟩
  | error e => exact ⟨failsBy_error (hfails e hwritten), h.like hlike⟩

theorem Sound.getEach (h : r.Sound) (names : List String) :
    FailsBy Error.BesidesSchema (r.getEach names).1 ∧ (r.getEach names).2.Sound := by
  induction names generalizing r with
  | nil => exact ⟨failsBy_ok [], h⟩
  | cons name rest ih =>
    obtain ⟨hfirst, hsound⟩ := h.get name
    rw [Row.getEach]
    generalize r.get name = got at hfirst hsound
    obtain ⟨_ | value, r'⟩ := got
    · exact ⟨failsBy_error (hfirst _ rfl), hsound⟩
    · obtain ⟨hrest, hsound⟩ := ih hsound
      simp only
      generalize r'.getEach rest = got at hrest hsound
      obtain ⟨_ | values, r''⟩ := got
      · exact ⟨failsBy_error (hrest _ rfl), hsound⟩
      · exact ⟨failsBy_ok _, hsound⟩

/-- No call fails of the schema, and none makes a row of another schema. -/
theorem Sound.call (h : r.Sound) (c : RowCall) :
    (r.call c).1.FailsBy Error.BesidesSchema ∧ (r.call c).2.Sound := by
  cases c with
  | get name => exact h.get name
  | stored name => exact h.stored name
  | set name value => exact h.set name value
  | nativeValues => exact h.getEach r.schema.names
  | clear => exact ⟨trivial, h.valid, h.factory⟩
  | setId id => exact ⟨trivial, h.valid, h.factory⟩
  | replace cells => exact ⟨trivial, h.valid, h.factory⟩

theorem Sound.calls (h : r.Sound) (cs : List RowCall) :
    ∀ answer ∈ (r.calls cs).1, answer.FailsBy Error.BesidesSchema := by
  induction cs generalizing r with
  | nil => exact List.forall_mem_nil _
  | cons c rest ih =>
    obtain ⟨hfirst, hsound⟩ := h.call c
    exact List.forall_mem_cons.2 ⟨hfirst, ih hsound⟩

end Row

/-- The row that a writer is opened with is of the schema that was accepted. -/
theorem WritePlan.sound_openOver (p : WritePlan) (sink : RowSink) : (p.openOver sink).2.Sound :=
  ⟨p.valid, rfl⟩

open ConverterFactory in
/-- A type has a converter exactly when it is valid, and is refused for its first bad type, an outer one
before the types in it, whichever way it is looked at. So no call of a row for writing fails of its
schema. -/
theorem DataType.build_agrees_with_validate :
    (∀ type : DataType,
      ((∃ c, stock.build type = .ok c) ↔ type.validate = .ok ()) ∧
      (∀ e, stock.build type = .error e ↔ type.validate = .error e) ∧
      ∀ e, type.validate = .error e ↔ ∃ before bad after fault,
        type.nodes = before ++ bad :: after ∧ (∀ part ∈ before, part.fault? = none) ∧
          bad.fault? = some fault ∧ e = .invalidType bad fault) ∧
    ∀ settings plan, WritePlan.ofSettings settings = .ok plan → ∀ sink cs,
      ∀ answer ∈ ((plan.openOver sink).2.calls cs).1, answer.FailsBy Error.BesidesSchema := by
  refine ⟨fun type => ⟨exists_build_iff, fun e => build_eq_error_iff, fun e => ?_⟩, ?_⟩
  · rw [validate_eq_forM]
    exact forM_check_eq_error_iff
  · intro settings plan _ sink cs
    exact (plan.sound_openOver sink).calls cs

/-- A map whose keys and values are both bad, the keys within a list. -/
def badMap : DataType := .map (.list (.primitive (.decimal 40 2))) (.union [])

/-- Flows by valve, and a reading that is a number or a short code. -/
def valves : StructType :=
  ⟨[⟨"Flow", .map (.primitive .string) (.primitive (.decimal 5 2))⟩,
    ⟨"Reading", .union [.primitive .int, .primitive (.char 3)]⟩],
    by decide +kernel⟩

/-- A read, a write of the wrong kind, a write to no column, and a read of all columns. -/
def valveCalls : List RowCall :=
  [.get "FLOW", .set "reading" (.scalar (.boolean true)), .set "depth" .null, .nativeValues]

theorem DataType.build_agrees_with_validate_valves :
    ConverterFactory.stock.build badMap =
      .error (.invalidType (.primitive (.decimal 40 2)) .precision) ∧
    ∃ plan, WritePlan.ofSettings [.declaredSchema valves] = .ok plan ∧
      ∀ answer ∈ ((plan.openOver (.memory { schema := valves })).2.calls valveCalls).1,
        answer.FailsBy Error.BesidesSchema := by
  obtain ⟨htypes, hrows⟩ := DataType.build_agrees_with_validate
  obtain ⟨_, hbuild, hvalidate⟩ := htypes badMap
  constructor
  · -- The map and the list around the decimal come before it, the values of the map after it.
    refine (hbuild _).2 ((hvalidate _).2 ⟨[badMap, .list (.primitive (.decimal 40 2))], _,
      [.union []], .precision, rfl, by decide, rfl, rfl⟩)
  · have hplan : WritePlan.ofSettings [.declaredSchema valves] = .ok ⟨valves, rfl⟩ := rfl
    exact ⟨_, hplan, hrows _ _ hplan _ valveCalls⟩

end ColumnScan
