import ColumnScan.Proofs.Row.Recall
import ColumnScan.Scan.Plan

/-!
# What filters do to rows

A filter only reads: it leaves the row as it is, but for the names that were looked up in it, and it
looks up names in the schema and values in the cells, so that the identity of the row does not matter
to it. Main statement: `ScanPlan.readsOnly_filter`.
-/

namespace ColumnScan

/-! ## Looking up -/

namespace Row

theorem resolve_withId (r : Row) (id : Option RecordId) (name : String) :
    (r.withId id).resolve name = ((r.resolve name).1, (r.resolve name).2.withId id) := by
  unfold resolve
  dsimp only [withId]
  split
  · rfl
  · split <;> rfl

theorem stored?_withId (r : Row) (id : Option RecordId) (name : String) :
    (r.withId id).stored? name = ((r.stored? name).1, (r.stored? name).2.withId id) := by
  rw [stored?, stored?, resolve_withId]
  cases r.resolve name with
  | mk result r => cases result <;> rfl

theorem like_stored? (r : Row) (name : String) : r.Like (r.stored? name).2 := by
  obtain ⟨r', hlike, hstored⟩ := stored?_spec r name
  rw [hstored]
  exact hlike

end Row

namespace Evaluator

theorem evaluateRow_withId (e : Evaluator) (r : Row) (id : Option RecordId) :
    e.evaluateRow (r.withId id) = ((e.evaluateRow r).1, (e.evaluateRow r).2.withId id) := by
  rw [evaluateRow, evaluateRow, Row.stored?_withId]
  cases r.stored? e.column with
  | mk result r => cases result <;> rfl

theorem like_evaluateRow (e : Evaluator) (r : Row) : r.Like (e.evaluateRow r).2 := by
  have hlike := r.like_stored? e.column
  rw [evaluateRow]
  revert hlike
  cases r.stored? e.column with
  | mk result r => cases result <;> exact id

theorem evaluateRowAll_withId (r : Row) (id : Option RecordId) (es : List Evaluator) :
    evaluateRowAll (r.withId id) es = ((evaluateRowAll r es).1, (evaluateRowAll r es).2.withId id) := by
  induction es generalizing r with
  | nil => rfl
  | cons e es ih =>
    rw [evaluateRowAll, evaluateRowAll, evaluateRow_withId]
    cases e.evaluateRow r with
    | mk result r =>
      cases result with
      | error failure => rfl
      | ok verdict =>
        simp only [ih]
        cases evaluateRowAll r es with
        | mk results r => cases results <;> rfl

theorem like_evaluateRowAll (r : Row) (es : List Evaluator) : r.Like (evaluateRowAll r es).2 := by
  induction es generalizing r with
  | nil => exact .refl r
  | cons e es ih =>
    have hlike := e.like_evaluateRow r
    rw [evaluateRowAll]
    cases hresult : e.evaluateRow r with
    | mk result r' =>
      rw [hresult] at hlike
      cases result with
      | error failure => exact hlike
      | ok verdict =>
        have hrest := hlike.trans (ih r')
        simp only
        revert hrest
        cases evaluateRowAll r' es with
        | mk results r => cases results <;> exact id

end Evaluator

/-! ## Filters -/

/-- The filter leaves the row as it is, and does the same with a row of another identity. -/
structure RowFilter.ReadsOnly (f : RowFilter) : Prop where
  like : ∀ r : Row, r.Like (f.accept r).2
  withId : ∀ r id, f.accept (r.withId id) = ((f.accept r).1, (f.accept r).2.withId id)

namespace RowFilter.ReadsOnly

variable {f : RowFilter} {r r' : Row} {result : Except Error Bool}

theorem cells_eq (h : f.ReadsOnly) (haccept : f.accept r = (result, r')) : r'.cells = r.cells := by
  have hlike := h.like r
  rw [haccept] at hlike
  exact hlike.cells

theorem accept_withId (h : f.ReadsOnly) (haccept : f.accept r = (result, r')) (id : Option RecordId) :
    f.accept (r.withId id) = (result, r'.withId id) := by
  rw [h.withId, haccept]

end RowFilter.ReadsOnly

theorem RowFilter.readsOnly_acceptAll : RowFilter.acceptAll.ReadsOnly where
  like r := .refl r
  withId _ _ := rfl

theorem ArgumentFilter.readsOnly_toFilter (f : ArgumentFilter) : f.toFilter.ReadsOnly where
  like r := by
    have hlike := Evaluator.like_evaluateRowAll r f.evaluators
    simp only [toFilter, evaluate]
    revert hlike
    cases Evaluator.evaluateRowAll r f.evaluators with
    | mk results r => cases results <;> exact id
  withId r id := by
    simp only [toFilter, evaluate, Evaluator.evaluateRowAll_withId]
    cases Evaluator.evaluateRowAll r f.evaluators with
    | mk results r => cases results <;> rfl

/-- Every filter of a plan only reads. -/
theorem ScanPlan.readsOnly_filter {resolved : StructType} {argument? : Option SearchArgument}
    {f : RowFilter} (h : ScanPlan.filter resolved argument? = .ok f) : f.ReadsOnly := by
  cases argument? with
  | none =>
    cases h
    exact RowFilter.readsOnly_acceptAll
  | some argument =>
    rw [filter] at h
    cases hmake : ArgumentFilter.make argument resolved with
    | error e =>
      rw [hmake] at h
      cases h
    | ok g =>
      rw [hmake] at h
      cases h
      exact g.readsOnly_toFilter

end ColumnScan
