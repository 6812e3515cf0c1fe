import ColumnScan.Predicate.Truth

/-!
# Expressions over leaves

The Boolean structure of a predicate. A leaf is named by its place in a table; the verdict of an
expression follows from the verdicts of the leaves. Main statement: `evaluate_congr`, only the
leaves that occur in an expression count.
-/

namespace ColumnScan

/-- A Boolean combination of leaves, named by their place. -/
inductive Expression where
  | and (children : List Expression)
  | or (children : List Expression)
  | not (child : Expression)
  | leaf (index : Nat)
  | constant (value : Truth)

namespace Expression

mutual

/-- The verdict of an expression. -/
def evaluate (verdict : Nat → Truth) : Expression → Truth
  | .and children => Truth.all (evaluateAll verdict children)
  | .or children => Truth.any (evaluateAll verdict children)
  | .not child => (evaluate verdict child).neg
  | .leaf index => verdict index
  | .constant value => value

/-- The verdicts of expressions. -/
def evaluateAll (verdict : Nat → Truth) : List Expression → List Truth
  | [] => []
  | e :: rest => evaluate verdict e :: evaluateAll verdict rest

end

mutual

/-- The leaves of an expression from left to right, each as often as it occurs. -/
def indices : Expression → List Nat
  | .and children => indicesAll children
  | .or children => indicesAll children
  | .not child => indices child
  | .leaf index => [index]
  | .constant _ => []

/-- The leaves of expressions from left to right. -/
def indicesAll : List Expression → List Nat
  | [] => []
  | e :: rest => indices e ++ indicesAll rest

end

mutual

/-- Only the leaves that occur count. -/
theorem evaluate_congr {v w : Nat → Truth} :
    (e : Expression) → (∀ i ∈ e.indices, v i = w i) → e.evaluate v = e.evaluate w
  | .and children, h => by rw [evaluate, evaluate, evaluateAll_congr children h]
  | .or children, h => by rw [evaluate, evaluate, evaluateAll_congr children h]
  | .not child, h => by rw [evaluate, evaluate, evaluate_congr child h]
  | .leaf index, h => h index (List.mem_singleton.2 rfl)
  | .constant _, _ => rfl

/-- Only the leaves that occur count, expression by expression. -/
theorem evaluateAll_congr {v w : Nat → Truth} :
    (es : List Expression) → (∀ i ∈ indicesAll es, v i = w i) →
      evaluateAll v es = evaluateAll w es
  | [], _ => rfl
  | e :: rest, h => by
    rw [evaluateAll, evaluateAll,
      evaluate_congr e fun i hi => h i (List.mem_append_left _ hi),
      evaluateAll_congr rest fun i hi => h i (List.mem_append_right _ hi)]

end

mutual

/-- An expression as it is shown. -/
def text : Expression → String
  | .and children => "and(" ++ ", ".intercalate (textAll children) ++ ")"
  | .or children => "or(" ++ ", ".intercalate (textAll children) ++ ")"
  | .not child => "not(" ++ text child ++ ")"
  | .leaf index => "leaf-" ++ toString index
  | .constant value => value.text

/-- Expressions as they are shown. -/
def textAll : List Expression → List String
  | [] => []
  | e :: rest => text e :: textAll rest

end

mutual

/-- Whether two expressions are the same. -/
def same : Expression → Expression → Bool
  | .and a, .and b => sameAll a b
  | .or a, .or b => sameAll a b
  | .not a, .not b => same a b
  | .leaf i, .leaf j => i == j
  | .constant a, .constant b => a == b
  | _, _ => false

/-- Whether two lists of expressions are the same. -/
def sameAll : List Expression → List Expression → Bool
  | [], [] => true
  | a :: as, b :: bs => same a b && sameAll as bs
  | _, _ => false

end

end Expression

end ColumnScan
