import ColumnScan.Predicate.Expression
import ColumnScan.Predicate.Leaf

/-!
# Search arguments

A predicate that is handed down to a scan: a table of leaves and an expression over it. Every leaf
that the expression names is in the table. Main statement: `ofParts_eq_ok_iff`, exactly the
expressions that stay within the table are accepted.
-/

namespace ColumnScan

/-- How clauses are joined. -/
inductive Connective where
  | and
  | or
deriving DecidableEq, Repr

/-- A connective as it is written. -/
def Connective.text : Connective → String
  | .and => "and"
  | .or => "or"

/-- What can be wrong with a search argument. -/
inductive PredicateError where
  /-- A leaf has a name with nothing but blanks. -/
  | emptyColumn
  /-- A list of alternatives is empty. -/
  | emptyList (column : String)
  /-- A group has no clause. -/
  | emptyGroup (connective : Connective)
  /-- The expression names a leaf beyond the table. -/
  | danglingLeaf (index size : Nat)
  /-- The text is not the encoding of a search argument. -/
  | undecodable
deriving DecidableEq, Repr

/-- The wording of what is wrong. -/
def PredicateError.message : PredicateError → String
  | .emptyColumn => "predicate column name must not be empty"
  | .emptyList column =>
    "invalid arity for " ++ Operator.text .inList ++ " on column '" ++ column ++
      "': expected at least 1, got 0"
  | .emptyGroup connective => connective.text ++ " group requires at least one clause"
  | .danglingLeaf index size =>
    "expression references leaf " ++ toString index ++ " but only " ++ toString size ++
      " leaves exist"
  | .undecodable => "search argument cannot be decoded"

/-- A table of leaves and an expression over it. -/
structure SearchArgument where
  leaves : List Leaf
  expression : Expression
  inTable : ∀ i ∈ expression.indices, i < leaves.length

namespace SearchArgument

/-- The search argument of these parts; the greatest leaf that is not in the table is reported. -/
def ofParts (leaves : List Leaf) (expression : Expression) :
    Except PredicateError SearchArgument :=
  if h : ∀ i ∈ expression.indices, i < leaves.length then .ok ⟨leaves, expression, h⟩
  else .error (.danglingLeaf (expression.indices.max?.getD 0) leaves.length)

theorem ofParts_eq_ok_iff {leaves : List Leaf} {e : Expression} {a : SearchArgument} :
    ofParts leaves e = .ok a ↔ a.leaves = leaves ∧ a.expression = e := by
  unfold ofParts
  constructor
  · intro h
    split at h
    · cases h; exact ⟨rfl, rfl⟩
    · cases h
  · rintro ⟨rfl, rfl⟩
    rw [dif_pos a.inTable]

/-- The verdict that follows from the verdicts of the leaves; one that is missing is unknown. -/
def evaluate (a : SearchArgument) (verdicts : List Truth) : Truth :=
  a.expression.evaluate fun i => verdicts[i]?.getD .unknown

/-- Whether two lists of leaves are the same. -/
def sameLeaves : List Leaf → List Leaf → Bool
  | [], [] => true
  | a :: as, b :: bs => a.same b && sameLeaves as bs
  | _, _ => false

/-- Whether two search arguments are the same. -/
def same (a b : SearchArgument) : Bool :=
  sameLeaves a.leaves b.leaves && a.expression.same b.expression

/-- The lines that show a table of leaves, from the place `index` on. -/
def leafLines (index : Nat) : List Leaf → List String
  | [] => []
  | leaf :: rest => ("leaf-" ++ toString index ++ " = " ++ leaf.text) :: leafLines (index + 1) rest

/-- A search argument as it is shown. -/
def text (a : SearchArgument) : String :=
  "\n".intercalate (leafLines 0 a.leaves ++ ["expr = " ++ a.expression.text])

end SearchArgument

end ColumnScan
