import ColumnScan.Proofs.Filter.Binding
import ColumnScan.Proofs.Row.Sound
import ColumnScan.Proofs.Scan.Judging
import ColumnScan.Proofs.Value.Comparable

/-!
# What a filter looks at

The filter of a search argument judges every row of a valid schema, be it another one than the filter
was bound to: a column that the row does not have is unknown to it, and so is a value of another kind
than the column had. The verdict comes from the cells of the columns that the leaves name and from
nothing else, and the row is only read. Main statements: `ArgumentFilter.evaluate_spec`,
`ScanPlan.leafVerdict_of_otherKind` and `ArgumentFilter.evaluate_local`.
-/

namespace ColumnScan

/-! ## Values of another kind -/

/-- The name of the kind of values in a column. -/
def Kind.stores : Kind → String
  | .string => "string"
  | .boolean => "boolean"
  | .byte => "byte"
  | .short => "short"
  | .int => "int"
  | .long => "long"
  | .float => "float"
  | .double => "double"
  | .timestamp => "timestamp"
  | .date => "date"
  | .decimal .. => "decimal"
  | .char _ => "char"
  | .varchar _ => "varchar"
  | .binary => "binary"

theorem Literal.kindName_of_coerce? {kind : Kind} {literal : Literal} {value : Stored}
    (h : literal.coerce? kind = some value) : value.kindName = kind.stores := by
  unfold coerce? at h
  split at h
  case h_10 =>
    obtain ⟨d, _, rfl⟩ := Option.map_eq_some_iff.1 h
    rfl
  all_goals cases h <;> rfl

/-- A comparison with literals of another kind than the value is unknown. -/
theorem Operator.judge_of_otherKind {operator : Operator} {literals : List Stored}
    {comparison : Comparison} {value : Stored} (hcompare : operator.compare? literals = some comparison)
    (hother : ∀ literal ∈ literals, literal.kindName ≠ value.kindName) :
    comparison.judge value = if operator = .isNull then .no else .unknown := by
  have hnone : ∀ literal ∈ literals, literal.compare? value = none := fun literal hmem =>
    Stored.compare?_eq_none (hother literal hmem)
  unfold compare? at hcompare
  split at hcompare <;> cases hcompare
  all_goals simp_all [Comparison.judge]

/-- A cell that is neither null nor of the kind of the filter's column is unknown to every comparison,
and it is no null. -/
theorem ScanPlan.leafVerdict_of_otherKind {schema actual : StructType} {cells : Cells} {leaf : Leaf}
    {e : Evaluator} (hmake : Evaluator.make schema leaf = .ok e) {i ordinal : Nat} {field : Field}
    {kind : Kind} (hfield : schema.lookup? leaf.column = some (i, field))
    (htype : field.type = .primitive kind) (hordinal : actual.indexOf? leaf.column = some ordinal)
    (hnotNull : cells.getD ordinal ≠ .null) (hother : (cells.getD ordinal).kindName ≠ kind.stores) :
    leafVerdict schema actual cells leaf = if leaf.operator = .isNull then .no else .unknown := by
  obtain ⟨_, _, kind', hfound, hkind, _, hbind⟩ := Evaluator.make_eq_ok_iff.1 hmake
  rw [hfield] at hfound
  cases hfound
  rw [Evaluator.eq_of_comparable? hkind] at htype
  cases htype
  obtain ⟨_, values, comparison, hvalues, hcompare, rfl⟩ := Evaluator.bindField_eq_ok_iff.1 hbind
  have hjudge : comparison.evaluate (some (cells.getD ordinal)) =
      comparison.judge (cells.getD ordinal) := by
    unfold Comparison.evaluate
    split
    · next h => cases h
    · next h => exact absurd (Option.some.inj h) hnotNull
    · next h => rw [Option.some.inj h]
  rw [leafVerdict, hmake, hordinal]
  show comparison.evaluate (some (cells.getD ordinal)) = _
  rw [hjudge]
  refine Operator.judge_of_otherKind hcompare fun literal hmem hsame => hother ?_
  rw [← hsame]
  obtain ⟨_, _, hcoerce⟩ := exists_mem_of_forall₂ (Evaluator.coerceAll_eq_ok_iff.1 hvalues).flip literal hmem
  exact Literal.kindName_of_coerce? hcoerce

/-! ## Cells by name -/

/-- A cell that is missing is the same to a comparison as the null that is read there. -/
theorem Comparison.evaluate_getD (c : Comparison) (cells : Cells) (i : Nat) :
    c.evaluate (some (cells.getD i)) = c.evaluate (cells.get? i) := by
  rw [Cells.getD]
  cases cells.get? i with
  | none => exact c.evaluate_null
  | some value => rfl

theorem Accessor.stored?_of_find {schema : StructType} {factory : ConverterFactory} {key : String}
    {a : Accessor} (h : find schema factory key = .ok a) (cells : Cells) :
    a.stored? cells = (schema.indexOfKey? key).bind cells.get? := by
  rw [find] at h
  cases hlookup : schema.lookupKey? key with
  | none =>
    rw [hlookup] at h
    cases h
    rw [StructType.indexOfKey?_eq_none_of_lookupKey? hlookup]
    rfl
  | some found =>
    rw [hlookup] at h
    obtain ⟨c, _, rfl⟩ := map_eq_ok_iff.1 h
    rw [(StructType.lookupKey?_eq_some hlookup).1]
    rfl

/-! ## Rows of another schema -/

namespace ArgumentFilter

open ScanPlan

variable {argument : SearchArgument} {schema : StructType} {f : ArgumentFilter} {r : Row}

/-- The filter judges a row of any valid schema by the cells of the columns that its leaves name. -/
theorem evaluate_spec (hf : make argument schema = .ok f) (hr : r.Sound) : ∃ r',
    f.evaluate r =
      (.ok (argument.evaluate (argument.leaves.map (leafVerdict schema r.schema r.cells))), r') ∧
    r.Like r' := by
  obtain ⟨es, hes, rfl⟩ := map_eq_ok_iff.1 hf
  have hmake := Evaluator.makeAll_eq_ok hes
  -- The cell of an evaluator, told by the column that it is bound to.
  let cell : Evaluator → Option Stored := fun e => (r.schema.indexOf? e.column).bind r.cells.get?
  have hfound : ∀ e ∈ es, ∃ a, Accessor.find r.schema r.factory (Text.lowercase e.column) = .ok a ∧
      a.stored? r.cells = cell e := by
    intro e _
    obtain ⟨a, ha⟩ := hr.exists_accessor e.column
    exact ⟨a, ha, Accessor.stored?_of_find ha r.cells⟩
  have hverdicts : argument.leaves.map (leafVerdict schema r.schema r.cells) =
      es.map fun e => e.evaluate (cell e) := by
    apply map_eq_map_of_forall₂
    apply hmake.imp
    intro leaf e hmade
    have hindex : r.schema.indexOf? e.column = r.schema.indexOf? leaf.column :=
      congrArg r.schema.indexOfKey? (Evaluator.lowercase_column hmade)
    rw [leafVerdict, hmade]
    simp only [cell, hindex]
    cases r.schema.indexOf? leaf.column with
    | none => rfl
    | some i => exact e.comparison.evaluate_getD r.cells i
  obtain ⟨r', hr', hlike⟩ := Evaluator.evaluateRowAll_spec hfound
  refine ⟨r', ?_, hlike⟩
  rw [evaluate, hr', hverdicts]

/-- A leaf judges rows alike that agree on its column. -/
theorem leafVerdict_congr {actual : StructType} {cells cells' : Cells} {leaf : Leaf}
    (h : ∀ i, actual.indexOf? leaf.column = some i → cells'.getD i = cells.getD i) :
    leafVerdict schema actual cells' leaf = leafVerdict schema actual cells leaf := by
  have hcell : (actual.indexOf? leaf.column).map cells'.getD =
      (actual.indexOf? leaf.column).map cells.getD :=
    Option.map_congr fun i hi => h i hi
  rw [leafVerdict, leafVerdict, hcell]

/-- The filter gives a verdict on every row of a valid schema, whatever was looked up in it before, and
leaves the row as it is. The verdict is that on a new row with the same cells, and on every row of the
schema that agrees in the columns that the leaves name; a value of another kind than the column of the
filter makes comparisons with it unknown, and is no null. -/
theorem evaluate_local (hf : make argument schema = .ok f) (hr : r.Sound) : ∃ verdict r',
    f.evaluate r = (.ok verdict, r') ∧ r.Like r' ∧
    f.toFilter.accept r = (.ok verdict.isYes, r') ∧
    verdict = argument.evaluate (argument.leaves.map (leafVerdict schema r.schema r.cells)) ∧
    (f.evaluate ((Row.ofSchema r.schema .stock).withCells r.cells)).1 = .ok verdict ∧
    (∀ s : Row, s.schema = r.schema → s.factory = .stock →
      (∀ leaf ∈ argument.leaves, ∀ i, r.schema.indexOf? leaf.column = some i →
        s.cells.getD i = r.cells.getD i) →
      (f.evaluate s).1 = .ok verdict) ∧
    ∀ leaf ∈ argument.leaves, ∀ i field kind ordinal,
      schema.lookup? leaf.column = some (i, field) → field.type = .primitive kind →
      r.schema.indexOf? leaf.column = some ordinal → r.cells.getD ordinal ≠ .null →
      (r.cells.getD ordinal).kindName ≠ kind.stores →
      leafVerdict schema r.schema r.cells leaf =
        if leaf.operator = .isNull then .no else .unknown := by
  obtain ⟨r', hevaluate, hlike⟩ := evaluate_spec hf hr
  have hagree : ∀ s : Row, s.schema = r.schema → s.factory = .stock →
      (∀ leaf ∈ argument.leaves, ∀ i, r.schema.indexOf? leaf.column = some i →
        s.cells.getD i = r.cells.getD i) →
      (f.evaluate s).1 =
        .ok (argument.evaluate (argument.leaves.map (leafVerdict schema r.schema r.cells))) := by
    intro s hschema hfactory hcells
    obtain ⟨s', hs, _⟩ := evaluate_spec hf ⟨hschema ▸ hr.valid, hfactory⟩
    rw [hs, hschema, List.map_congr_left fun leaf hleaf => leafVerdict_congr (hcells leaf hleaf)]
  refine ⟨_, r', hevaluate, hlike, ?_, rfl, ?_, hagree, ?_⟩
  · simp only [toFilter, hevaluate]
  · exact hagree _ rfl rfl fun _ _ _ _ => rfl
  · intro leaf hleaf i field kind ordinal hfield htype hordinal hnotNull hother
    obtain ⟨es, hes, rfl⟩ := map_eq_ok_iff.1 hf
    obtain ⟨e, _, hmade⟩ := exists_mem_of_forall₂ (Evaluator.makeAll_eq_ok hes) leaf hleaf
    exact leafVerdict_of_otherKind hmade hfield htype hordinal hnotNull hother

/-- Parcels as the filter knows them. -/
def parcels : StructType :=
  ⟨[⟨"Size", .primitive .short⟩, ⟨"Label", .primitive .string⟩], by decide +kernel⟩

/-- Parcels as they are stored: their sizes are missing, and their labels are numbers. -/
def numberedParcels : StructType :=
  ⟨[⟨"Weight", .primitive .int⟩, ⟨"LABEL", .primitive .long⟩], by decide +kernel⟩

/-- A parcel with a number, whose weight was looked up before. -/
def numberedParcel : Row :=
  (((Row.ofSchema numberedParcels .stock).withCells ⟨[.null, .scalar (.long 7)]⟩).get "weight").2

/-- A parcel with the same number and a weight, in which nothing was looked up. -/
def heavyParcel : Row :=
  (Row.ofSchema numberedParcels .stock).withCells
    ⟨[.scalar (.int 3), .scalar (.long 7)]⟩

/-- The size is less than five, or the label is seven. -/
def smallOrSeven : SearchArgument where
  leaves := [.make .lessThan "size" [.long 5], .make .equals "label" [.string "7"]]
  expression := .or [.leaf 0, .leaf 1]
  inTable := by decide

theorem evaluate_local_numberedParcel : ∃ f, make smallOrSeven parcels = .ok f ∧
    numberedParcel.Sound ∧ (f.evaluate numberedParcel).1 = .ok .unknown ∧
    (f.toFilter.accept numberedParcel).1 = .ok false ∧
    (f.evaluate heavyParcel).1 = .ok .unknown := by
  have hnew : ((Row.ofSchema numberedParcels .stock).withCells ⟨[.null, .scalar (.long 7)]⟩).Sound :=
    ⟨rfl, rfl⟩
  have hsound : numberedParcel.Sound := (hnew.get "weight").2
  have hmake : make smallOrSeven parcels = .ok _ := rfl
  refine ⟨_, hmake, hsound, ?_⟩
  obtain ⟨verdict, r', hevaluate, _, haccept, hverdict, _, hagree, _⟩ := evaluate_local hmake hsound
  have hunknown : verdict = .unknown := hverdict
  rw [hunknown] at hevaluate haccept hagree
  refine ⟨congrArg Prod.fst hevaluate, congrArg Prod.fst haccept, hagree heavyParcel rfl rfl ?_⟩
  -- The parcels have no size, and their labels are the same.
  refine List.forall_mem_cons.2 ⟨fun i hi => ?_, List.forall_mem_singleton.2 fun i hi => ?_⟩
  · have hsize : numberedParcels.indexOf? "size" = none := by decide +kernel
    exact absurd (hsize.symm.trans hi) nofun
  · have hlabel : numberedParcels.indexOf? "label" = some 1 := by decide +kernel
    cases hlabel.symm.trans hi
    rfl

end ArgumentFilter

end ColumnScan
