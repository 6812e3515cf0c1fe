import ColumnScan.Proofs.Filter.Single
import ColumnScan.Proofs.Scan.Judging
import Mathlib.Algebra.Order.Ring.Int
import Mathlib.Order.Compare

/-!
# Comparisons with integers

A literal keeps only the bits that the column it is compared with has room for. The filter of a
comparison judges a row by the integers that are left, and exactly so: it is yes if the comparison holds
of them and no if not, whichever comparison it is and however it is put into a negation. For literals
within the range of the column these are the literals themselves; one beyond the range is taken for
another number. Main statement: `ArgumentFilter.evaluate_integerTest`.
-/

namespace ColumnScan

/-! ## Integer columns -/

/-- The number of bits of the integers in a column of the kind. -/
def Kind.bits? : Kind → Option Nat
  | .byte => some 8
  | .short => some 16
  | .int => some 32
  | .long => some 64
  | _ => none

theorem Kind.bits_pos {kind : Kind} {bits : Nat} (hbits : kind.bits? = some bits) : 0 < bits := by
  cases kind <;> cases hbits <;> decide

/-- The cell of a column of the kind that holds the integer. -/
inductive IntegerCell : Kind → Int → Stored → Prop where
  | byte (n : Int8) : IntegerCell .byte n.toInt (.scalar (.byte n))
  | short (n : Int16) : IntegerCell .short n.toInt (.scalar (.short n))
  | int (n : Int32) : IntegerCell .int n.toInt (.scalar (.int n))
  | long (n : Int64) : IntegerCell .long n.toInt (.scalar (.long n))

/-- The row holds the integer in its column of the name, which is of the kind. -/
def Row.HoldsInteger (r : Row) (column : String) (kind : Kind) (v : Int) : Prop :=
  ∃ ordinal field cell, r.schema.lookup? column = some (ordinal, field) ∧
    field.type = .primitive kind ∧ r.cells.get? ordinal = some cell ∧ IntegerCell kind v cell

namespace IntegerCell

variable {kind : Kind} {bits : Nat} {a b : Int} {s t : Stored}

theorem compare?_eq (hs : IntegerCell kind a s) (ht : IntegerCell kind b t) :
    s.compare? t = some (compare a b) := by
  cases hs <;> cases ht <;> rfl

theorem evaluate_eq_judge (h : IntegerCell kind a s) (c : Comparison) :
    c.evaluate (some s) = c.judge s := by
  cases h <;> rfl

/-- A literal keeps the low bits that the column has room for. -/
theorem exists_coerce? (hbits : kind.bits? = some bits) (n : Int64) :
    ∃ s, (Literal.long n).coerce? kind = some s ∧ IntegerCell kind (wrap bits n.toInt) s := by
  cases kind <;> cases hbits <;> refine ⟨_, rfl, ?_⟩
  case byte =>
    rw [show wrap 8 n.toInt = n.toInt8.toInt from (Int64.toInt_toInt8 n).symm]
    exact .byte _
  case short =>
    rw [show wrap 16 n.toInt = n.toInt16.toInt from (Int64.toInt_toInt16 n).symm]
    exact .short _
  case int =>
    rw [show wrap 32 n.toInt = n.toInt32.toInt from (Int64.toInt_toInt32 n).symm]
    exact .int _
  case long =>
    rw [wrap_of_inWidth (by decide) ⟨n.le_toInt, n.toInt_lt⟩]
    exact .long n

/-- An integer column can be compared, and every factory has a converter for it. -/
theorem of_bits? (hbits : kind.bits? = some bits) :
    Evaluator.comparable? (.primitive kind) = some kind ∧ kind.validate = .ok () := by
  cases kind <;> cases hbits <;> exact ⟨rfl, rfl⟩

theorem exists_coerceAll (hbits : kind.bits? = some bits) (ns : List Int64) :
    ∃ ss, List.Forall₂ (fun literal s => literal.coerce? kind = some s) (ns.map Literal.long) ss ∧
      List.Forall₂ (IntegerCell kind) (ns.map fun n => wrap bits n.toInt) ss := by
  induction ns with
  | nil => exact ⟨[], .nil, .nil⟩
  | cons n ns ih =>
    obtain ⟨s, hs, hcell⟩ := exists_coerce? hbits n
    obtain ⟨ss, hss, hcells⟩ := ih
    exact ⟨s :: ss, .cons hs hss, .cons hcell hcells⟩

end IntegerCell

/-! ## Comparisons with integer literals -/

/-- A clause that compares a column with integers. -/
inductive IntegerTest (α : Type) where
  | equals (literal : α)
  | nullSafeEquals (literal : α)
  | lessThan (literal : α)
  | lessThanEquals (literal : α)
  | greaterThan (literal : α)
  | greaterThanEquals (literal : α)
  | inList (first : α) (rest : List α)
  | between (lower upper : α)

namespace IntegerTest

variable {α β : Type}

/-- The literals in order. -/
def literals : IntegerTest α → List α
  | equals n | nullSafeEquals n | lessThan n | lessThanEquals n | greaterThan n
  | greaterThanEquals n => [n]
  | inList first rest => first :: rest
  | between lower upper => [lower, upper]

/-- The same comparison with other literals. -/
def map (f : α → β) : IntegerTest α → IntegerTest β
  | equals n => equals (f n)
  | nullSafeEquals n => nullSafeEquals (f n)
  | lessThan n => lessThan (f n)
  | lessThanEquals n => lessThanEquals (f n)
  | greaterThan n => greaterThan (f n)
  | greaterThanEquals n => greaterThanEquals (f n)
  | inList first rest => inList (f first) (rest.map f)
  | between lower upper => between (f lower) (f upper)

/-- The call that adds the clause to a program. -/
def call (column : String) : IntegerTest Int64 → Call
  | equals n => .equals column (.long n)
  | nullSafeEquals n => .nullSafeEquals column (.long n)
  | lessThan n => .lessThan column (.long n)
  | lessThanEquals n => .lessThanEquals column (.long n)
  | greaterThan n => .greaterThan column (.long n)
  | greaterThanEquals n => .greaterThanEquals column (.long n)
  | inList first rest => .inList column ((first :: rest).map .long)
  | between lower upper => .between column (.long lower) (.long upper)

/-- Whether the comparison holds of an integer. -/
def holds (v : Int) : IntegerTest Int → Bool
  | equals n | nullSafeEquals n => v == n
  | lessThan n => decide (v < n)
  | lessThanEquals n => decide (v ≤ n)
  | greaterThan n => decide (n < v)
  | greaterThanEquals n => decide (n ≤ v)
  | inList first rest => (first :: rest).contains v
  | between lower upper => decide (lower ≤ v) && decide (v ≤ upper)

/-- The operator of the leaf. -/
def operator : IntegerTest α → Operator
  | equals _ => .equals
  | nullSafeEquals _ => .nullSafeEquals
  | lessThan _ | greaterThanEquals _ => .lessThan
  | lessThanEquals _ | greaterThan _ => .lessThanEquals
  | inList .. => .inList
  | between .. => .between

/-- Whether the leaf is negated: to be greater is not to be less. -/
def negated : IntegerTest α → Bool
  | greaterThan _ | greaterThanEquals _ => true
  | equals _ | nullSafeEquals _ | lessThan _ | lessThanEquals _ | inList .. | between .. => false

variable (f : α → β) (test : IntegerTest α)

theorem operator_map : (test.map f).operator = test.operator := by
  cases test <;> rfl

theorem negated_map : (test.map f).negated = test.negated := by
  cases test <;> rfl

theorem literals_map : (test.map f).literals = test.literals.map f := by
  cases test <;> rfl

theorem map_congr {f g : α → β} {test : IntegerTest α} (h : ∀ n ∈ test.literals, f n = g n) :
    test.map f = test.map g := by
  cases test with
  | inList first rest =>
    obtain ⟨hfirst, hrest⟩ := List.forall_mem_cons.1 h
    rw [map, map, hfirst, List.map_congr_left hrest]
  | between lower upper =>
    obtain ⟨hlower, hupper⟩ := List.forall_mem_cons.1 h
    rw [map, map, hlower, hupper upper (List.mem_singleton_self _)]
  | _ n => rw [map, map, h n (List.mem_singleton_self n)]

end IntegerTest

/-! ## Judging an integer -/

namespace Comparison

theorem isEq_compare (n v : Int) : (compare n v).isEq = (v == n) := by
  rcases lt_trichotomy n v with h | rfl | h
  · rw [compare_lt_iff_lt.2 h, beq_eq_false_iff_ne.2 h.ne']
    rfl
  · rw [compare_eq_iff_eq.2 rfl, beq_self_eq_true]
    rfl
  · rw [compare_gt_iff_gt.2 h, beq_eq_false_iff_ne.2 h.ne]
    rfl

theorem isLE_compare (m n : Int) : (compare m n).isLE = decide (m ≤ n) := by
  rw [Bool.eq_iff_iff, decide_eq_true_iff, Std.isLE_compare]

theorem isBelow_compare (inclusive : Bool) (n v : Int) :
    isBelow inclusive (compare n v) = bif inclusive then decide (v ≤ n) else decide (v < n) := by
  rcases lt_trichotomy n v with h | rfl | h
  · rw [compare_lt_iff_lt.2 h, decide_eq_false h.not_ge, decide_eq_false h.not_gt, Bool.cond_self]
    rfl
  · rw [compare_eq_iff_eq.2 rfl, decide_eq_true le_rfl, decide_eq_false (lt_irrefl n)]
    cases inclusive <;> rfl
  · rw [compare_gt_iff_gt.2 h, decide_eq_true h.le, decide_eq_true h, Bool.cond_self]
    rfl

/-- Of integers all of which can be compared, one is the value or none is. -/
theorem judge_oneOf {kind : Kind} {v : Int} {cell : Stored} {ns : List Int} {ss : List Stored}
    (hss : List.Forall₂ (IntegerCell kind) ns ss) (hcell : IntegerCell kind v cell) :
    (oneOf ss).judge cell = .ofBool (ns.contains v) := by
  have heq : (ss.any fun s => s.compare? cell == some .eq) = ns.contains v := by
    induction hss with
    | nil => rfl
    | @cons n s ns ss hs _ ih =>
      rw [List.any_cons, hs.compare?_eq hcell, ih, List.contains_cons, ← isEq_compare]
      cases compare n v <;> rfl
  have hnone : (ss.any fun s => s.compare? cell == none) = false := by
    rw [List.any_eq_false]
    intro s hs
    obtain ⟨n, _, hn⟩ := exists_mem_of_forall₂ hss.flip s hs
    rw [hn.compare?_eq hcell]
    exact Bool.false_ne_true
  rw [judge, heq, hnone]
  cases ns.contains v <;> rfl

end Comparison

namespace IntegerTest

/-- The comparison that is made with the stored forms of the literals decides every integer. -/
theorem exists_comparison {kind : Kind} {test : IntegerTest Int} {ss : List Stored}
    (hss : List.Forall₂ (IntegerCell kind) test.literals ss) :
    ∃ comparison, test.operator.compare? ss = some comparison ∧ ∀ v cell, IntegerCell kind v cell →
      comparison.evaluate (some cell) = .ofBool (test.negated ^^ test.holds v) := by
  cases test with
  | inList first rest =>
    obtain ⟨s, ss, hs, hrest, rfl⟩ := List.forall₂_cons_left_iff.1 hss
    refine ⟨.oneOf (s :: ss), rfl, fun v cell hcell => ?_⟩
    rw [hcell.evaluate_eq_judge, Comparison.judge_oneOf hss hcell, negated, Bool.false_xor]
    rfl
  | between lower upper =>
    obtain ⟨s, ss, hs, hrest, rfl⟩ := List.forall₂_cons_left_iff.1 hss
    obtain ⟨t, ts, ht, hnil, rfl⟩ := List.forall₂_cons_left_iff.1 hrest
    obtain rfl := List.forall₂_nil_left_iff.1 hnil
    refine ⟨.between s t, rfl, fun v cell hcell => ?_⟩
    rw [hcell.evaluate_eq_judge, Comparison.judge, hs.compare?_eq hcell, hcell.compare?_eq ht, negated,
      Bool.false_xor, holds]
    simp only [Comparison.isLE_compare]
  | _ n =>
    obtain ⟨s, ss, hs, hnil, rfl⟩ := List.forall₂_cons_left_iff.1 hss
    obtain rfl := List.forall₂_nil_left_iff.1 hnil
    refine ⟨_, rfl, fun v cell hcell => ?_⟩
    rw [hcell.evaluate_eq_judge, Comparison.judge, hs.compare?_eq hcell, negated, holds]
    -- A negated leaf asks for the numbers on the other side.
    simp only [Comparison.isEq_compare, Comparison.isBelow_compare, Bool.cond_true, Bool.cond_false,
      Bool.false_xor, Bool.true_xor, ← decide_not, not_lt, not_le]

end IntegerTest

/-! ## The filter of a comparison -/

namespace IntegerTest

/-- The leaf of the clause. -/
def leaf (column : String) (test : IntegerTest Int64) : Leaf :=
  .make test.operator column (test.literals.map .long)

theorem clause_call {column : String} (hcolumn : Text.isBlank column = false)
    (test : IntegerTest Int64) :
    (test.call column).clause =
      .ok (if test.negated then .not (.leaf (test.leaf column)) else .leaf (test.leaf column)) := by
  have hleaf : Call.checkedLeaf test.operator column (test.literals.map .long) =
      .ok (test.leaf column) := by
    rw [Call.checkedLeaf, hcolumn]
    cases test <;> rfl
  cases test <;> exact congrArg (Except.map _) hleaf

/-- The search argument of the clause alone has its leaf, negated or not. -/
theorem exists_build {column : String} (hcolumn : Text.isBlank column = false) (k : Connective)
    (test : IntegerTest Int64) :
    ∃ argument, SearchArgument.build k [test.call column] = .ok argument ∧
      argument.leaves = [test.leaf column] ∧
      ∀ verdict, argument.evaluate [verdict] = if test.negated then verdict.neg else verdict :=
  SearchArgument.exists_build_single (test.clause_call hcolumn) k

/-- The leaf of the clause is bound to an integer column. -/
theorem exists_make {schema : StructType} {column : String} {ordinal : Nat} {field : Field}
    {kind : Kind} {bits : Nat} (hlookup : schema.lookup? column = some (ordinal, field))
    (htype : field.type = .primitive kind) (hbits : kind.bits? = some bits) (test : IntegerTest Int64) :
    ∃ evaluator, Evaluator.make schema (test.leaf column) = .ok evaluator ∧
      evaluator.column = field.name ∧ ∀ v cell, IntegerCell kind v cell → evaluator.evaluate (some cell) =
        .ofBool (test.negated ^^ (test.map fun n => wrap bits n.toInt).holds v) := by
  obtain ⟨ss, hss, hcells⟩ := IntegerCell.exists_coerceAll hbits test.literals
  rw [← literals_map] at hcells
  obtain ⟨comparison, hcompare, hjudge⟩ := exists_comparison hcells
  rw [operator_map] at hcompare
  rw [negated_map] at hjudge
  obtain ⟨hcomparable, hvalid⟩ := IntegerCell.of_bits? hbits
  have hadmits : (test.leaf column).operator.arity.admits (test.leaf column).literals.length = true := by
    cases test <;> simp [leaf, Leaf.make, operator, literals, Operator.arity, Arity.admits]
  have hused : Evaluator.used (test.leaf column).operator (test.leaf column).literals =
      test.literals.map .long := by
    cases test <;> rfl
  rw [← hused] at hss
  refine ⟨⟨field.name, comparison⟩, ?_, rfl, hjudge⟩
  exact Evaluator.make_eq_ok_iff.2 ⟨ordinal, field, kind,
    (schema.lookup?_lowercase column).trans hlookup, htype ▸ hcomparable, hvalid,
    Evaluator.bindField_eq_ok_iff.2
      ⟨hadmits, ss, comparison, Evaluator.coerceAll_eq_ok_iff.2 hss, hcompare, rfl⟩⟩

end IntegerTest

/-- Whatever the factory of its own, it has a converter for integers. -/
theorem ConverterFactory.exists_build_of_bits? (f : ConverterFactory) {kind : Kind} {bits : Nat}
    (hbits : kind.bits? = some bits) : ∃ c, f.build (.primitive kind) = .ok c := by
  cases hown : f.own (.primitive kind) with
  | some c => exact ⟨c, by rw [build, hown]⟩
  | none =>
    obtain ⟨_, hvalid⟩ := IntegerCell.of_bits? hbits
    exact ⟨.ofKind kind, by rw [build, hown, hvalid]; rfl⟩

/-- The cell of the row is found by the name of the column. -/
theorem Row.HoldsInteger.find {r : Row} {column : String} {kind : Kind} {bits : Nat} {v : Int}
    (h : r.HoldsInteger column kind v) (hbits : kind.bits? = some bits) :
    ∃ accessor cell, Accessor.find r.schema r.factory (Text.lowercase column) = .ok accessor ∧
      accessor.stored? r.cells = some cell ∧ IntegerCell kind v cell := by
  obtain ⟨ordinal, field, cell, hlookup, htype, hget, hcell⟩ := h
  obtain ⟨c, hc⟩ := r.factory.exists_build_of_bits? hbits
  refine ⟨.present ordinal field.name c, cell, ?_, hget, hcell⟩
  have hfound : r.schema.lookupKey? (Text.lowercase column) = some (ordinal, field) := hlookup
  rw [Accessor.find, hfound]
  dsimp only
  rw [htype, hc]
  rfl

namespace ArgumentFilter

/-- The filter of a comparison with integers judges every row that holds an integer in the column by
what is left of the literals in the column's width: yes if the comparison holds of these, no if not. If
the column has room for the literals they are compared as they are. -/
theorem evaluate_integerTest {schema : StructType} {column : String} {ordinal : Nat} {field : Field}
    {kind : Kind} {bits : Nat} (hcolumn : Text.isBlank column = false)
    (hlookup : schema.lookup? column = some (ordinal, field)) (htype : field.type = .primitive kind)
    (hbits : kind.bits? = some bits) (k : Connective) (test : IntegerTest Int64) :
    ∃ argument filter, SearchArgument.build k [test.call column] = .ok argument ∧
      make argument schema = .ok filter ∧ ∀ r v, r.HoldsInteger column kind v →
        (filter.evaluate r).1 = .ok (.ofBool ((test.map fun n => wrap bits n.toInt).holds v)) ∧
          ((∀ n ∈ test.literals, InWidth bits n.toInt) →
            (filter.evaluate r).1 = .ok (.ofBool ((test.map Int64.toInt).holds v))) := by
  obtain ⟨argument, hbuild, hleaves, hargument⟩ := test.exists_build hcolumn k
  obtain ⟨evaluator, hmake, hname, hjudge⟩ := test.exists_make hlookup htype hbits
  refine ⟨argument, ⟨argument, [evaluator]⟩, hbuild, ?_, ?_⟩
  · rw [make, hleaves, Evaluator.makeAll, hmake]
    rfl
  · intro r v hv
    obtain ⟨accessor, cell, hfind, hstored, hcell⟩ := hv.find hbits
    have hkey : Text.lowercase evaluator.column = Text.lowercase column := by
      rw [hname]
      exact (StructType.lookupKey?_eq_some hlookup).2.2
    have hfound : ∀ e ∈ [evaluator], ∃ a, Accessor.find r.schema r.factory
        (Text.lowercase e.column) = .ok a ∧ a.stored? r.cells = (fun _ => some cell) e :=
      List.forall_mem_singleton.2 ⟨accessor, hkey ▸ hfind, hstored⟩
    obtain ⟨r', hverdicts, _⟩ := Evaluator.evaluateRowAll_spec hfound
    have hevaluate : (evaluate ⟨argument, [evaluator]⟩ r).1 =
        .ok (.ofBool ((test.map fun n => wrap bits n.toInt).holds v)) := by
      rw [evaluate, hverdicts]
      show Except.ok (argument.evaluate [evaluator.evaluate (some cell)]) = _
      rw [hargument, hjudge v cell hcell]
      cases test.negated <;> cases (test.map fun n => wrap bits n.toInt).holds v <;> rfl
    refine ⟨hevaluate, fun hfits => ?_⟩
    have hsame : (test.map fun n => wrap bits n.toInt) = test.map Int64.toInt :=
      IntegerTest.map_congr fun n hn => wrap_of_inWidth (Kind.bits_pos hbits) (hfits n hn)
    rw [← hsame]
    exact hevaluate

/-- A column of short integers. -/
def sizes : StructType := ⟨[⟨"Size", .primitive .short⟩], by decide +kernel⟩

/-- A row with the size seven. -/
def ofSizeSeven : Row where
  schema := sizes
  factory := .stock
  cells := ⟨[.scalar (.short 7)]⟩

theorem evaluate_integerTest_sizes :
    ∃ argument filter,
      SearchArgument.build .and [(IntegerTest.between (-300) 300).call "size"] = .ok argument ∧
      make argument sizes = .ok filter ∧ (filter.evaluate ofSizeSeven).1 = .ok .yes := by
  have hlookup : sizes.lookup? "size" = some (0, ⟨"Size", .primitive .short⟩) := by decide +kernel
  obtain ⟨argument, filter, hbuild, hmake, h⟩ := evaluate_integerTest (by decide) hlookup rfl rfl .and
    (.between (-300) 300)
  have hholds : ofSizeSeven.HoldsInteger "size" .short 7 :=
    ⟨0, _, _, hlookup, rfl, rfl, .short 7⟩
  refine ⟨argument, filter, hbuild, hmake, (h ofSizeSeven 7 hholds).2 ?_⟩
  exact List.forall_mem_cons.2 ⟨by decide, List.forall_mem_singleton.2 (by decide)⟩

/-- A column of bytes. -/
def bytes : StructType := ⟨[⟨"b", .primitive .byte⟩], by decide +kernel⟩

/-- A row with the byte zero. -/
def ofByteZero : Row where
  schema := bytes
  factory := .stock
  cells := ⟨[.scalar (.byte 0)]⟩

/-- Zero is less than 200 and is not 256, but no byte holds these numbers: what is left of them is -56
and 0, so zero is not found to be less than the one and is found to be the other. -/
theorem exists_evaluate_beyond_width :
    ofByteZero.HoldsInteger "b" .byte 0 ∧
    (∃ argument filter, SearchArgument.build .and [.lessThan "b" (.long 200)] = .ok argument ∧
      make argument bytes = .ok filter ∧ (0 : Int) < (200 : Int64).toInt ∧
      (filter.evaluate ofByteZero).1 = .ok .no) ∧
    ∃ argument filter, SearchArgument.build .and [.equals "b" (.long 256)] = .ok argument ∧
      make argument bytes = .ok filter ∧ (0 : Int) ≠ (256 : Int64).toInt ∧
      (filter.evaluate ofByteZero).1 = .ok .yes := by
  have hlookup : bytes.lookup? "b" = some (0, ⟨"b", .primitive .byte⟩) := by decide +kernel
  refine ⟨⟨0, _, _, hlookup, rfl, rfl, .byte 0⟩, ⟨_, _, rfl, rfl, by decide, rfl⟩, _, _, rfl, rfl,
    by decide, rfl⟩

end ArgumentFilter

end ColumnScan
