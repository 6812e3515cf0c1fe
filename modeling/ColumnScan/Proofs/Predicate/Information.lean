import ColumnScan.Predicate.Visitor
import ColumnScan.Proofs.Predicate.Kleene
import Mathlib.Data.List.Forall2

/-!
# Verdicts on partial information

An unknown verdict says less than yes and less than no. The connectives of three-valued truth keep
this order, so an expression that is decided on some of its leaves is decided the same way however
the others turn out. Where nothing is unknown, the verdict is that of two-valued logic. Main
statement: `SearchArgument.evaluate_below_and_decided`.
-/

namespace ColumnScan

/-! ## The order of information -/

namespace Truth

/-- The second verdict is the first one, or decides what the first one leaves open. -/
def Below (a b : Truth) : Prop := a = .unknown ∨ a = b

instance (a b : Truth) : Decidable (a.Below b) := inferInstanceAs (Decidable (_ ∨ _))

theorem Below.refl (a : Truth) : a.Below a := .inr rfl

/-- What is decided stays. -/
theorem Below.eq_of_ne_unknown {a b : Truth} (h : a.Below b) (ha : a ≠ .unknown) : b = a := by
  rcases h with hunknown | rfl
  · exact absurd hunknown ha
  · rfl

theorem Below.neg {a b : Truth} (h : a.Below b) : a.neg.Below b.neg := by
  rcases h with rfl | rfl
  · exact .inl rfl
  · exact .refl _

@[simp] theorem neg_ofBool (b : Bool) : (ofBool b).neg = ofBool !b := by cases b <;> rfl

theorem eq_ofBool_isYes {a : Truth} (h : a ≠ .unknown) : a = ofBool a.isYes := by
  cases a with
  | yes => rfl
  | no => rfl
  | unknown => exact absurd rfl h

end Truth

namespace Connective

variable {k : Connective}

theorem join_below {a b c d : Truth} (hac : a.Below c) (hbd : b.Below d) :
    (k.join a b).Below (k.join c d) := by
  cases k <;> cases a <;> cases b <;> cases c <;> cases d <;> revert hac hbd <;> decide

theorem joined_below {vs ws : List Truth} (h : List.Forall₂ Truth.Below vs ws) :
    (k.joined vs).Below (k.joined ws) := by
  induction h with
  | nil => exact .refl _
  | cons hfirst _ ih =>
    rw [joined_cons, joined_cons]
    exact join_below hfirst ih

/-- The value of Boolean values that a connective joins: without any, a conjunction is true and a
disjunction is false. -/
def decided : Connective → List Bool → Bool
  | .and => fun values => values.all id
  | .or => fun values => values.any id

theorem joined_map_ofBool (values : List Bool) :
    k.joined (values.map Truth.ofBool) = .ofBool (k.decided values) := by
  induction values with
  | nil => cases k <;> rfl
  | cons value rest ih =>
    rw [List.map_cons, joined_cons, ih]
    cases k with
    | and =>
      show (Truth.ofBool value).conj (.ofBool (rest.all id)) = .ofBool (value && rest.all id)
      cases value <;> cases rest.all id <;> rfl
    | or =>
      show (Truth.ofBool value).disj (.ofBool (rest.any id)) = .ofBool (value || rest.any id)
      cases value <;> cases rest.any id <;> rfl

end Connective

namespace Expression

/-! ## Expressions on more information -/

mutual

/-- More information on the leaves gives no less on the expression. -/
theorem evaluate_below {v w : Nat → Truth} :
    (e : Expression) → (∀ i ∈ e.indices, (v i).Below (w i)) → (e.evaluate v).Below (e.evaluate w)
  | .and children, h => Connective.joined_below (k := .and) (evaluateAll_below children h)
  | .or children, h => Connective.joined_below (k := .or) (evaluateAll_below children h)
  | .not child, h => (evaluate_below child h).neg
  | .leaf index, h => h index (List.mem_singleton.2 rfl)
  | .constant value, _ => .refl value

/-- More information on the leaves gives no less on expressions. -/
theorem evaluateAll_below {v w : Nat → Truth} :
    (es : List Expression) → (∀ i ∈ indicesAll es, (v i).Below (w i)) →
      List.Forall₂ Truth.Below (evaluateAll v es) (evaluateAll w es)
  | [], _ => .nil
  | e :: rest, h =>
    .cons (evaluate_below e fun i hi => h i (List.mem_append_left _ hi))
      (evaluateAll_below rest fun i hi => h i (List.mem_append_right _ hi))

end

/-! ## Expressions in two-valued logic -/

mutual

/-- The constants of an expression. -/
def constants : Expression → List Truth
  | .and children => constantsAll children
  | .or children => constantsAll children
  | .not child => constants child
  | .leaf _ => []
  | .constant value => [value]

/-- The constants of expressions. -/
def constantsAll : List Expression → List Truth
  | [] => []
  | e :: rest => constants e ++ constantsAll rest

end

mutual

/-- Whether an expression is true where each leaf is true or false; a constant is true if it is yes. -/
def holds (fact : Nat → Bool) : Expression → Bool
  | .and children => Connective.and.decided (holdsAll fact children)
  | .or children => Connective.or.decided (holdsAll fact children)
  | .not child => !holds fact child
  | .leaf index => fact index
  | .constant value => value.isYes

/-- Whether each of the expressions is true. -/
def holdsAll (fact : Nat → Bool) : List Expression → List Bool
  | [] => []
  | e :: rest => holds fact e :: holdsAll fact rest

end

mutual

/-- Where nothing is unknown, three-valued logic is two-valued logic. -/
theorem evaluate_eq_ofBool_holds {v : Nat → Truth} {fact : Nat → Bool} :
    (e : Expression) → (∀ i ∈ e.indices, v i = .ofBool (fact i)) → .unknown ∉ e.constants →
      e.evaluate v = .ofBool (e.holds fact)
  | .and children, hleaves, hconstants => by
    rw [evaluate, evaluateAll_eq_map_ofBool children hleaves hconstants, holds]
    exact Connective.joined_map_ofBool (k := .and) _
  | .or children, hleaves, hconstants => by
    rw [evaluate, evaluateAll_eq_map_ofBool children hleaves hconstants, holds]
    exact Connective.joined_map_ofBool (k := .or) _
  | .not child, hleaves, hconstants => by
    rw [evaluate, evaluate_eq_ofBool_holds child hleaves hconstants, holds, Truth.neg_ofBool]
  | .leaf index, hleaves, _ => hleaves index (List.mem_singleton.2 rfl)
  | .constant value, _, hconstants =>
    Truth.eq_ofBool_isYes fun h => hconstants (List.mem_singleton.2 h.symm)

/-- The same for expressions one by one. -/
theorem evaluateAll_eq_map_ofBool {v : Nat → Truth} {fact : Nat → Bool} :
    (es : List Expression) → (∀ i ∈ indicesAll es, v i = .ofBool (fact i)) →
      .unknown ∉ constantsAll es → evaluateAll v es = (holdsAll fact es).map .ofBool
  | [], _, _ => rfl
  | e :: rest, hleaves, hconstants => by
    have hfirst := evaluate_eq_ofBool_holds e (fun i hi => hleaves i (List.mem_append_left _ hi))
      fun h => hconstants (List.mem_append_left _ h)
    have hrest := evaluateAll_eq_map_ofBool rest (fun i hi => hleaves i (List.mem_append_right _ hi))
      fun h => hconstants (List.mem_append_right _ h)
    rw [evaluateAll, hfirst, hrest, holdsAll, List.map_cons]

end

end Expression

namespace SearchArgument

/-! ## Visiting for the verdict -/

/-- What is known of a leaf by its place; nothing is where no verdict stands. -/
def knownAt (verdicts : List Truth) (index : Nat) : Truth := verdicts[index]?.getD .unknown

/-- The visitor that combines the verdicts of leaves. -/
def verdictVisitor (verdicts : List Truth) : ExpressionVisitor Id Truth where
  leaf index _ := knownAt verdicts index
  constant value := value
  not value := value.neg
  and values := Truth.all values
  or values := Truth.any values

mutual

theorem visit_verdictVisitor {verdicts : List Truth} {leaves : List Leaf} :
    (e : Expression) → (∀ i ∈ e.indices, i < leaves.length) →
      (verdictVisitor verdicts).visit leaves e = e.evaluate (knownAt verdicts)
  | .and children, h => congrArg Truth.all (visitAll_verdictVisitor children h)
  | .or children, h => congrArg Truth.any (visitAll_verdictVisitor children h)
  | .not child, h => congrArg Truth.neg (visit_verdictVisitor child h)
  | .leaf index, h => by
    have hleaf := List.getElem?_eq_getElem (h index (List.mem_singleton.2 rfl))
    rw [ExpressionVisitor.visit, hleaf]
    rfl
  | .constant _, _ => rfl

theorem visitAll_verdictVisitor {verdicts : List Truth} {leaves : List Leaf} :
    (es : List Expression) → (∀ i ∈ Expression.indicesAll es, i < leaves.length) →
      (verdictVisitor verdicts).visitAll leaves es = Expression.evaluateAll (knownAt verdicts) es
  | [], _ => rfl
  | e :: rest, h =>
    congrArg₂ List.cons (visit_verdictVisitor e fun i hi => h i (List.mem_append_left _ hi))
      (visitAll_verdictVisitor rest fun i hi => h i (List.mem_append_right _ hi))

end

/-- The verdict of a search argument is found by visiting it. It is kept when more is known on its
leaves: a yes or no on partial information is the verdict on every completion of it. Where no constant
and no leaf that occurs is unknown, the verdict is that of two-valued logic. -/
theorem evaluate_below_and_decided (a : SearchArgument) :
    (∀ v, (verdictVisitor v).visitArgument a = a.evaluate v) ∧
      (∀ v w, (∀ i < a.leaves.length, (knownAt v i).Below (knownAt w i)) →
        (a.evaluate v).Below (a.evaluate w) ∧
          (a.evaluate v ≠ .unknown → a.evaluate w = a.evaluate v)) ∧
      ∀ v, .unknown ∉ a.expression.constants →
        (∀ i ∈ a.expression.indices, knownAt v i ≠ .unknown) →
        a.evaluate v = .ofBool (a.expression.holds fun i => (knownAt v i).isYes) := by
  refine ⟨fun v => visit_verdictVisitor a.expression a.inTable, fun v w h => ?_,
    fun v hconstants hleaves => ?_⟩
  · have hbelow : (a.evaluate v).Below (a.evaluate w) :=
      a.expression.evaluate_below fun i hi => h i (a.inTable i hi)
    exact ⟨hbelow, hbelow.eq_of_ne_unknown⟩
  · exact a.expression.evaluate_eq_ofBool_holds (fun i hi => Truth.eq_ofBool_isYes (hleaves i hi))
      hconstants

/-- Small ones, and all that have a colour. -/
def smallOrColoured : SearchArgument where
  leaves := [⟨.lessThan, "size", [.long 3]⟩, ⟨.isNull, "colour", []⟩]
  expression := .or [.leaf 0, .not (.and [.leaf 1, .constant .yes])]
  inTable := by decide

/-- With a colour the size does not matter, known or not. -/
theorem evaluate_below_and_decided_smallOrColoured :
    (∀ i < 2, (knownAt [.unknown, .no] i).Below (knownAt [.no, .no] i)) ∧
      smallOrColoured.evaluate [.unknown, .no] = .yes ∧ smallOrColoured.evaluate [.no, .no] = .yes ∧
      .unknown ∉ smallOrColoured.expression.constants ∧
      (∀ i ∈ smallOrColoured.expression.indices, knownAt [.no, .no] i ≠ .unknown) ∧
      smallOrColoured.evaluate [.no, .no] =
        .ofBool (smallOrColoured.expression.holds fun i => (knownAt [.no, .no] i).isYes) := by
  have hmore : ∀ i < 2, (knownAt [.unknown, .no] i).Below (knownAt [.no, .no] i) := by decide
  have hyes : smallOrColoured.evaluate [.unknown, .no] = .yes := rfl
  have hconstants : .unknown ∉ smallOrColoured.expression.constants := by decide
  have hknown : ∀ i ∈ smallOrColoured.expression.indices, knownAt [.no, .no] i ≠ .unknown := by decide
  obtain ⟨-, hbelow, hdecided⟩ := evaluate_below_and_decided smallOrColoured
  have hkept := (hbelow _ _ hmore).2 (by rw [hyes]; decide)
  exact ⟨hmore, hyes, hkept.trans hyes, hconstants, hknown, hdecided _ hconstants hknown⟩

end SearchArgument

end ColumnScan
