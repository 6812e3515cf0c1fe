import ColumnScan.Filter.RowFilter
import ColumnScan.Proofs.Schema.Lookup

/-!
# Leaves bound to columns

When a leaf is bound to a schema: it names a column that can be compared, whose parameters are within
their bounds, and has as many literals as its operator takes, each with a stored form in the column.
Main statements: `Evaluator.bindField_eq_ok_iff` and `Evaluator.make_eq_ok_iff`.
-/

namespace ColumnScan.Evaluator

theorem coerceAll_eq_ok_iff {field : Field} {kind : Kind} {literals : List Literal}
    {values : List Stored} : coerceAll field kind literals = .ok values ↔
      List.Forall₂ (fun literal value => literal.coerce? kind = some value) literals values := by
  induction literals generalizing values with
  | nil =>
    rw [coerceAll, List.forall₂_nil_left_iff, Except.ok.injEq]
    exact eq_comm
  | cons literal rest ih =>
    rw [coerceAll, List.forall₂_cons_left_iff]
    cases literal.coerce? kind with
    | none => simp
    | some first =>
      simp only [map_eq_ok_iff, ih, Option.some.injEq]
      constructor
      · rintro ⟨others, hothers, rfl⟩
        exact ⟨first, others, rfl, hothers, rfl⟩
      · rintro ⟨_, others, rfl, hothers, rfl⟩
        exact ⟨others, hothers, rfl⟩

theorem bindField_eq_ok_iff {leaf : Leaf} {field : Field} {kind : Kind} {e : Evaluator} :
    bindField leaf field kind = .ok e ↔
      leaf.operator.arity.admits leaf.literals.length = true ∧ ∃ values comparison,
        coerceAll field kind (used leaf.operator leaf.literals) = .ok values ∧
          leaf.operator.compare? values = some comparison ∧ e = ⟨field.name, comparison⟩ := by
  rw [bindField]
  cases harity : leaf.operator.arity.admits leaf.literals.length with
  | false => exact iff_of_false nofun fun h => Bool.false_ne_true h.1
  | true =>
    simp only [Bool.not_true, Bool.false_eq_true, if_false, true_and]
    refine bind_eq_ok_iff.trans (exists_congr fun values => ?_)
    cases leaf.operator.compare? values with
    | none => simp
    | some comparison =>
      simp only [pure_eq_ok_iff, Option.some.injEq, exists_and_left, exists_eq_left']
      exact and_congr_right fun _ => eq_comm

theorem eq_of_comparable? {type : DataType} {kind : Kind} (h : comparable? type = some kind) :
    type = .primitive kind := by
  unfold comparable? at h
  split at h <;> cases h
  rfl

theorem make_eq_ok_iff {schema : StructType} {leaf : Leaf} {e : Evaluator} :
    make schema leaf = .ok e ↔ ∃ i field kind, schema.lookup? leaf.column = some (i, field) ∧
      comparable? field.type = some kind ∧ kind.validate = .ok () ∧
        bindField leaf field kind = .ok e := by
  rw [make]
  cases hlookup : schema.lookup? leaf.column with
  | none => exact iff_of_false nofun nofun
  | some found =>
    obtain ⟨i, field⟩ := found
    cases hkind : comparable? field.type with
    | none =>
      refine iff_of_false (by simp [hkind]) ?_
      rintro ⟨_, _, kind, hfound, hcomparable, -⟩
      cases hfound
      rw [hkind] at hcomparable
      cases hcomparable
    | some kind =>
      simp only [hkind, andThen_eq_ok_iff, mapError_eq_ok_iff]
      constructor
      · rintro ⟨hvalid, hbind⟩
        exact ⟨i, field, kind, rfl, hkind, hvalid, hbind⟩
      · rintro ⟨_, _, _, hfound, hcomparable, hvalid, hbind⟩
        cases hfound
        rw [hkind] at hcomparable
        cases hcomparable
        exact ⟨hvalid, hbind⟩

/-- An evaluator is bound to the column that the schema has by the name of the leaf. -/
theorem make_eq_ok {schema : StructType} {leaf : Leaf} {e : Evaluator} (h : make schema leaf = .ok e) :
    ∃ i field kind, schema.lookup? leaf.column = some (i, field) ∧ field.type = .primitive kind ∧
      kind.validate = .ok () ∧ e.column = field.name := by
  obtain ⟨i, field, kind, hfield, hkind, hvalid, hbind⟩ := make_eq_ok_iff.1 h
  obtain ⟨_, _, comparison, _, _, rfl⟩ := bindField_eq_ok_iff.1 hbind
  exact ⟨i, field, kind, hfield, eq_of_comparable? hkind, hvalid, rfl⟩

theorem lowercase_column {schema : StructType} {leaf : Leaf} {e : Evaluator}
    (h : make schema leaf = .ok e) : Text.lowercase e.column = Text.lowercase leaf.column := by
  obtain ⟨_, _, _, hfield, _, _, hcolumn⟩ := make_eq_ok h
  rw [hcolumn]
  exact (StructType.lookupKey?_eq_some hfield).2.2

theorem makeAll_eq_ok {schema : StructType} {leaves : List Leaf} {es : List Evaluator}
    (h : makeAll schema leaves = .ok es) :
    List.Forall₂ (fun leaf e => make schema leaf = .ok e) leaves es := by
  induction leaves generalizing es with
  | nil =>
    cases h
    exact .nil
  | cons leaf rest ih =>
    obtain ⟨e, he, h⟩ := bind_eq_ok_iff.1 h
    obtain ⟨others, hothers, h⟩ := bind_eq_ok_iff.1 h
    obtain rfl := pure_eq_ok_iff.1 h
    exact .cons he (ih hothers)

end ColumnScan.Evaluator
