import ColumnScan.Predicate.Builder
import ColumnScan.Proofs.Filter.Binding
import ColumnScan.Proofs.Row.Recall
import ColumnScan.Proofs.Text.LowerCase

/-!
# Filters of one clause

A program of one comparison, negated or not, has the leaf of the comparison as its whole table, so that
the filter's verdict on a row is that of the comparison with the literals in stored form, or its
negation. Main statements: `SearchArgument.exists_build_single` and `Call.verdict_single`.
-/

namespace ColumnScan

/-! ## The search argument -/

namespace SearchArgument

/-- A program of one clause that is no group makes that clause the whole search argument. -/
theorem build_singleton {k : Connective} {call : Call} {c : Clause}
    (hclause : call.clause = .ok c) (hsingle : Clause.spread k c = [c]) :
    build k [call] = ofParts (c.place []).2 (c.place []).1 := by
  have hjoin : Clause.join k [c] = .ok c := by
    rw [Clause.join, List.flatMap_singleton, hsingle]
  rw [build, Call.clauses, Call.clauses, hclause]
  show Clause.join k [c] >>= _ = _
  rw [hjoin]
  rfl

/-- The search argument of one comparison has its leaf, negated or not. -/
theorem exists_build_single {call : Call} {leaf : Leaf} {negated : Bool}
    (hclause : call.clause = .ok (if negated then .not (.leaf leaf) else .leaf leaf)) (k : Connective) :
    ∃ argument, build k [call] = .ok argument ∧ argument.leaves = [leaf] ∧
      ∀ verdict, argument.evaluate [verdict] = if negated then verdict.neg else verdict := by
  have htable : ∀ i ∈ [0], i < [leaf].length := by
    rw [List.forall_mem_singleton]
    exact Nat.one_pos
  cases negated with
  | true =>
    refine ⟨⟨[leaf], .not (.leaf 0), htable⟩, ?_, rfl, fun verdict => rfl⟩
    rw [build_singleton hclause (by cases k <;> rfl)]
    exact ofParts_eq_ok_iff.2 ⟨rfl, rfl⟩
  | false =>
    refine ⟨⟨[leaf], .leaf 0, htable⟩, ?_, rfl, fun verdict => rfl⟩
    rw [build_singleton hclause (by cases k <;> rfl)]
    exact ofParts_eq_ok_iff.2 ⟨rfl, rfl⟩

end SearchArgument

/-! ## The verdict -/

/-- Names are looked up in lower case, in which a leaf has its name already. -/
theorem StructType.lookup?_lowercase (s : StructType) (name : String) :
    s.lookup? (Text.lowercase name) = s.lookup? name :=
  congrArg s.lookupKey? (Text.lowercase_lowercase name)

theorem Row.stored?_congr (r : Row) {name name' : String}
    (h : Text.lowercase name = Text.lowercase name') : (r.stored? name).1 = (r.stored? name').1 := by
  obtain ⟨_, _, hname⟩ := stored?_spec r name
  obtain ⟨_, _, hname'⟩ := stored?_spec r name'
  rw [hname, hname', accessor, accessor, h]

theorem ArgumentFilter.evaluate_single {argument : SearchArgument} {e : Evaluator} {r : Row}
    {cell : Option Stored} (h : (r.stored? e.column).1 = .ok cell) :
    (evaluate ⟨argument, [e]⟩ r).1 = .ok (argument.evaluate [e.evaluate cell]) := by
  simp only [evaluate, Evaluator.evaluateRowAll, Evaluator.evaluateRow]
  generalize r.stored? e.column = stored at h
  obtain ⟨result, r'⟩ := stored
  cases h
  rfl

/-- The schema has a column of the name and kind, with which literals can be compared. -/
structure StructType.Compares (schema : StructType) (column : String) (kind : Kind) : Prop where
  named : Text.isBlank column = false
  bound : ∃ ordinal field, schema.lookup? column = some (ordinal, field) ∧
    Evaluator.comparable? field.type = some kind
  valid : kind.validate = .ok ()

namespace Call

/-- The verdict on a row of the filter of one call. -/
def verdict (schema : StructType) (r : Row) (call : Call) : Except Error Truth := do
  let argument ← (SearchArgument.build .and [call]).mapError .predicate
  let filter ← (ArgumentFilter.make argument schema).mapError .evaluator
  (filter.evaluate r).1

theorem checkedLeaf_of_admits {operator : Operator} {column : String} {literals : List Literal}
    (hcolumn : Text.isBlank column = false)
    (harity : operator.arity.admits literals.length = true) :
    checkedLeaf operator column literals = .ok (.make operator column literals) := by
  have hlist : ¬(operator = .inList ∧ literals = []) := by
    rintro ⟨rfl, rfl⟩
    exact Bool.false_ne_true harity
  rw [checkedLeaf, hcolumn, if_neg hlist]
  rfl

/-- The verdict of a comparison is that with the stored forms of its literals. -/
theorem verdict_single {schema : StructType} {column : String} {kind : Kind} {r : Row}
    {cell : Option Stored} (h : schema.Compares column kind) (hcell : (r.stored? column).1 = .ok cell)
    (operator : Operator) {literals : List Literal} {values : List Stored} {comparison : Comparison}
    (harity : operator.arity.admits literals.length = true)
    (hvalues : List.Forall₂ (fun literal value => literal.coerce? kind = some value)
      (Evaluator.used operator literals) values)
    (hcompare : operator.compare? values = some comparison) (negated : Bool) :
    verdict schema r
        (if negated then .notLeaf operator column literals else .leaf operator column literals) =
      .ok (if negated then (comparison.evaluate cell).neg else comparison.evaluate cell) := by
  obtain ⟨hcolumn, ⟨ordinal, field, hlookup, hkind⟩, hvalid⟩ := h
  have hclause : clause (if negated then .notLeaf operator column literals
        else .leaf operator column literals) =
      .ok (if negated then .not (.leaf (.make operator column literals))
        else .leaf (.make operator column literals)) := by
    cases negated <;> exact congrArg (Except.map _) (checkedLeaf_of_admits hcolumn harity)
  obtain ⟨argument, hbuild, hleaves, hargument⟩ := SearchArgument.exists_build_single hclause .and
  have hmake : Evaluator.make schema (.make operator column literals) = .ok ⟨field.name, comparison⟩ :=
    Evaluator.make_eq_ok_iff.2 ⟨ordinal, field, kind, (schema.lookup?_lowercase column).trans hlookup,
      hkind, hvalid, Evaluator.bindField_eq_ok_iff.2
        ⟨harity, values, comparison, Evaluator.coerceAll_eq_ok_iff.2 hvalues, hcompare, rfl⟩⟩
  have hfilter : ArgumentFilter.make argument schema = .ok ⟨argument, [⟨field.name, comparison⟩]⟩ := by
    rw [ArgumentFilter.make, hleaves, Evaluator.makeAll, hmake]
    rfl
  -- The evaluator asks for the column by its declared name, which differs in case at most.
  have hstored : (r.stored? field.name).1 = .ok cell := by
    rw [r.stored?_congr (StructType.lookupKey?_eq_some hlookup).2.2]
    exact hcell
  simp only [verdict, hbuild, hfilter, Except.mapError, bind, Except.bind]
  rw [ArgumentFilter.evaluate_single (e := ⟨field.name, comparison⟩) hstored, hargument]
  rfl

end Call

end ColumnScan
