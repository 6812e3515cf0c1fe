import ColumnScan.Proofs.Convert.Stock
import ColumnScan.Proofs.Filter.Binding
import ColumnScan.Proofs.Row.Cells
import ColumnScan.Proofs.Row.Recall
import ColumnScan.Proofs.Scan.Columns

/-!
# Judging projected rows

The filter of a scan judges rows in which the columns that were not read are null. It finds every
column that a leaf looks at, and finds it as the complete row has it, so its verdict is that on the
complete row. Main statements: `ScanPlan.project_eq_visible` and `ScanPlan.Covers.judges_filter`.
-/

namespace ColumnScan

/-! ## What a scan is to hand on -/

namespace ScanPlan

/-- The search argument by which rows are judged, if its text can be read. -/
def judge? (p : ScanPlan) : Option SearchArgument := p.argument?.toOption.join

/-- Whether a position of the source belongs to a column that is asked for or that the search
argument looks at. -/
def shows (p : ScanPlan) (actual : StructType) (ordinal : Nat) : Bool :=
  (p.askedNames (p.resolve actual) ++ leafNames p.judge?).any fun name =>
    actual.indexOf? name == some ordinal

/-- What is handed on of a complete row of the source: its values in the columns that are shown and
null in all others. -/
def visible (p : ScanPlan) (actual : StructType) (cells : Cells) : Cells :=
  ⟨(List.range actual.size).map fun i => if p.shows actual i then cells.getD i else .null⟩

/-- The verdict of a leaf on a complete row of the source: the literals are taken as its column in
the schema of the scan says, and the cell is that of the column of this name in the source, if it
has one. -/
def leafVerdict (resolved actual : StructType) (cells : Cells) (leaf : Leaf) : Truth :=
  match Evaluator.make resolved leaf with
  | .ok evaluator => evaluator.evaluate ((actual.indexOf? leaf.column).map cells.getD)
  | .error _ => .unknown

/-- Whether a complete row of the source is handed on. -/
def accepts (p : ScanPlan) (actual : StructType) (cells : Cells) : Bool :=
  match p.judge? with
  | some argument =>
    (argument.evaluate (argument.leaves.map (leafVerdict (p.resolve actual) actual cells))).isYes
  | none => true

end ScanPlan

/-! ## Projected cells -/

namespace ScanPlan

variable {p : ScanPlan} {actual : StructType}

theorem size_visible (cells : Cells) : (p.visible actual cells).size = actual.size := by
  simp [visible, Cells.size]

theorem getD_visible (cells : Cells) {i : Nat} (hi : i < actual.size) :
    (p.visible actual cells).getD i = if p.shows actual i then cells.getD i else .null := by
  simp [visible, Cells.getD, Cells.get?, hi]

theorem project_eq_visible {ordinals : List Nat} (h : ∀ i, i ∈ ordinals ↔ p.shows actual i = true)
    (cells : Cells) :
    Cells.project (isWanted (some ordinals)) actual.size cells.values = p.visible actual cells := by
  apply Cells.ext_getD
  · rw [Cells.size_project, size_visible]
  intro i hi
  rw [Cells.size_project] at hi
  rw [Cells.getD_project _ _ hi, getD_visible _ hi]
  have hwanted : isWanted (some ordinals) i = p.shows actual i := by
    rw [Bool.eq_iff_iff, isWanted, List.contains_iff_mem]
    exact h i
  rw [hwanted]

end ScanPlan

/-! ## Rows that are judged -/

namespace Evaluator

/-- Evaluators whose columns are found judge the cells that are found, whatever was looked up. -/
theorem evaluateRowAll_spec {cell : Evaluator → Option Stored} {es : List Evaluator} {r : Row}
    (h : ∀ e ∈ es, ∃ a, Accessor.find r.schema r.factory (Text.lowercase e.column) = .ok a ∧
      a.stored? r.cells = cell e) :
    ∃ r', evaluateRowAll r es = (.ok (es.map fun e => e.evaluate (cell e)), r') ∧ r.Like r' := by
  induction es generalizing r with
  | nil => exact ⟨r, rfl, .refl r⟩
  | cons e es ih =>
    obtain ⟨⟨a, ha, hcell⟩, hrest⟩ := List.forall_mem_cons.1 h
    obtain ⟨r', hr', hlike⟩ := Row.stored?_of_find ha
    obtain ⟨r'', hr'', hlike'⟩ := ih (r := r') (by rwa [hlike.schema, hlike.factory, hlike.cells])
    refine ⟨r'', ?_, hlike.trans hlike'⟩
    rw [evaluateRowAll, evaluateRow, hr']
    simp only [hr'', hcell, List.map_cons]

end Evaluator

/-! ## The filter of a scan -/

/-- The filter judges visible cells as the complete row is to be judged, and leaves them alone. -/
structure Judges (filter : RowFilter) (actual : StructType) (visible : Cells → Cells)
    (accepts : Cells → Bool) : Prop where
  accept : ∀ (r : Row) (cells : Cells), r.schema = actual → r.factory = .stock →
    r.cells = visible cells →
    ∃ r', filter.accept r = (.ok (accepts cells), r') ∧ r.Like r'

namespace ScanPlan

variable {p : ScanPlan} {actual requested read : StructType}

/-- The columns that were read, as the source has them. -/
structure Covers (p : ScanPlan) (actual read : StructType) : Prop where
  has : ∀ field ∈ read.fields, (p.resolve actual).Has field
  keys : ∀ k, k ∈ read.fields.map StructType.key ↔
    k ∈ (p.askedNames (p.resolve actual) ++ leafNames p.judge?).map Text.lowercase
  types : ∀ field ∈ read.fields, ∀ i other, actual.lookup? field.name = some (i, other) →
    other.type = field.type

/-- A column of the schema of the scan is read if its name is asked for or looked at. -/
theorem Covers.mem_fields (h : p.Covers actual read) {name : String} {i : Nat} {field : Field}
    (hname : name ∈ p.askedNames (p.resolve actual) ++ leafNames p.judge?)
    (hfield : (p.resolve actual).lookup? name = some (i, field)) : field ∈ read.fields := by
  have hkey : StructType.key field = Text.lowercase name :=
    (StructType.lookupKey?_eq_some hfield).2.2
  have hmem : StructType.key field ∈ read.fields.map StructType.key := by
    rw [h.keys, hkey]
    exact List.mem_map_of_mem hname
  -- What is read by that name is the very column: both are found by it.
  rcases List.mem_map.1 hmem with ⟨g, hg, hgkey⟩
  rwa [← (h.has g hg).eq_of_key_eq (StructType.has_of_lookup? hfield) hgkey]

theorem shows_of_indexOf? {name : String} {j : Nat}
    (hname : name ∈ p.askedNames (p.resolve actual) ++ leafNames p.judge?)
    (hindex : actual.indexOf? name = some j) : p.shows actual j = true := by
  unfold shows
  rw [List.any_eq_true]
  refine ⟨name, hname, ?_⟩
  rw [hindex]
  exact beq_self_eq_true _

/-- The cell that a leaf looks at is found in a projected row, and it is that of the complete
row. -/
theorem Covers.find (h : p.Covers actual read) {argument : SearchArgument}
    (hjudge : p.judge? = some argument) {leaf : Leaf} (hleaf : leaf ∈ argument.leaves)
    {e : Evaluator} (he : Evaluator.make (p.resolve actual) leaf = .ok e) (cells : Cells) :
    ∃ a, Accessor.find actual .stock (Text.lowercase e.column) = .ok a ∧
      a.stored? (p.visible actual cells) = (actual.indexOf? leaf.column).map cells.getD := by
  obtain ⟨i, field, kind, hfield, htype, hvalid, _⟩ := Evaluator.make_eq_ok he
  have hlooked : leaf.column ∈ p.askedNames (p.resolve actual) ++ leafNames p.judge? := by
    rw [hjudge]
    exact List.mem_append_right _ (List.mem_map_of_mem hleaf)
  rw [Evaluator.lowercase_column he, Accessor.find]
  cases hlookup : actual.lookupKey? (Text.lowercase leaf.column) with
  | none =>
    have hindex : actual.indexOf? leaf.column = none :=
      StructType.indexOfKey?_eq_none_of_lookupKey? hlookup
    exact ⟨.absent, rfl, by rw [hindex]; rfl⟩
  | some found =>
    obtain ⟨j, other⟩ := found
    have hindex : actual.indexOf? leaf.column = some j :=
      (StructType.lookupKey?_eq_some hlookup).1
    -- The source has the column with the type that the leaf was bound to.
    have hother : other.type = .primitive kind := by
      rw [← htype]
      apply h.types field (h.mem_fields hlooked hfield) j other
      show actual.lookupKey? (StructType.key field) = some (j, other)
      rw [(StructType.lookupKey?_eq_some hfield).2.2, hlookup]
    have hbuild : ConverterFactory.stock.build other.type = .ok (.ofKind kind) := by
      rw [hother]
      exact ConverterFactory.stock_build_primitive hvalid
    refine ⟨.present j other.name (.ofKind kind), by dsimp only; rw [hbuild]; rfl, ?_⟩
    obtain ⟨hlt, _, _⟩ := List.findIdx?_eq_some_iff_getElem.1 hindex
    have hsize : j < (p.visible actual cells).size := by
      rw [size_visible]
      exact hlt
    rw [Accessor.stored?, Cells.get?_eq_some_getD hsize, getD_visible cells hlt,
      if_pos (shows_of_indexOf? hlooked hindex), hindex, Option.map_some]

/-- The verdicts on a projected row are those on the complete row. -/
theorem Covers.judges_toFilter (h : p.Covers actual read) {argument : SearchArgument}
    (hjudge : p.judge? = some argument) {f : ArgumentFilter}
    (hf : ArgumentFilter.make argument (p.resolve actual) = .ok f) :
    Judges f.toFilter actual (p.visible actual) (p.accepts actual) := by
  obtain ⟨es, hes, rfl⟩ := map_eq_ok_iff.1 hf
  have hmake := Evaluator.makeAll_eq_ok hes
  constructor
  intro r cells hschema hfactory hcells
  -- The cell of an evaluator, told by the column that it is bound to.
  let cell : Evaluator → Option Stored := fun e => (actual.indexOf? e.column).map cells.getD
  have hcell : ∀ leaf e, Evaluator.make (p.resolve actual) leaf = .ok e →
      cell e = (actual.indexOf? leaf.column).map cells.getD := fun leaf e he =>
    congrArg (fun name => (actual.indexOfKey? name).map cells.getD) (Evaluator.lowercase_column he)
  have hfound : ∀ e ∈ es, ∃ a, Accessor.find r.schema r.factory (Text.lowercase e.column) = .ok a ∧
      a.stored? r.cells = cell e := by
    intro e he
    obtain ⟨leaf, hleaf, hmade⟩ := exists_mem_of_forall₂ hmake.flip e he
    rw [hschema, hfactory, hcells, hcell leaf e hmade]
    exact h.find hjudge hleaf hmade cells
  have hverdicts : argument.leaves.map (leafVerdict (p.resolve actual) actual cells) =
      es.map fun e => e.evaluate (cell e) := by
    apply map_eq_map_of_forall₂
    apply hmake.imp
    intro leaf e hmade
    rw [leafVerdict, hmade, hcell leaf e hmade]
  obtain ⟨r', hr', hlike⟩ := Evaluator.evaluateRowAll_spec hfound
  refine ⟨r', ?_, hlike⟩
  rw [accepts, hjudge]
  simp only [ArgumentFilter.toFilter, ArgumentFilter.evaluate, hr', hverdicts]

theorem Covers.judges_filter (h : p.Covers actual read) {filter : RowFilter}
    (hfilter : ScanPlan.filter (p.resolve actual) p.judge? = .ok filter) :
    Judges filter actual (p.visible actual) (p.accepts actual) := by
  cases hjudge : p.judge? with
  | none =>
    rw [hjudge] at hfilter
    cases hfilter
    constructor
    intro r cells _ _ _
    refine ⟨r, ?_, .refl r⟩
    rw [accepts, hjudge]
    rfl
  | some argument =>
    rw [hjudge] at hfilter
    obtain ⟨f, hf, rfl⟩ := map_eq_ok_iff.1 (mapError_eq_ok_iff.1 hfilter)
    exact h.judges_toFilter hjudge hf

end ScanPlan

end ColumnScan
