import ColumnScan.Predicate.SearchArgument
import ColumnScan.Text.Blank

/-!
# Building search arguments

A search argument is built from a program: a list of clauses, some of them groups of further
clauses. Groups of the kind that surrounds them dissolve into it, a group of one clause is that
clause, a double negation cancels, and leaves that are the same share one place of the table. The
first fault of the program, read in order, is reported; an empty group counts where it ends.
-/

namespace ColumnScan

/-- One clause of a program. -/
inductive Call where
  | leaf (operator : Operator) (column : String) (literals : List Literal)
  | notLeaf (operator : Operator) (column : String) (literals : List Literal)
  | group (connective : Connective) (calls : List Call)
  | notGroup (calls : List Call)

namespace Call

/-- The column equals the literal. -/
def equals (column : String) (literal : Literal) : Call := .leaf .equals column [literal]

/-- The column equals the literal, nulls told apart. -/
def nullSafeEquals (column : String) (literal : Literal) : Call :=
  .leaf .nullSafeEquals column [literal]

/-- The column is less than the literal. -/
def lessThan (column : String) (literal : Literal) : Call := .leaf .lessThan column [literal]

/-- The column is at most the literal. -/
def lessThanEquals (column : String) (literal : Literal) : Call :=
  .leaf .lessThanEquals column [literal]

/-- The column is greater than the literal: it is not at most the literal. -/
def greaterThan (column : String) (literal : Literal) : Call :=
  .notLeaf .lessThanEquals column [literal]

/-- The column is at least the literal: it is not less than the literal. -/
def greaterThanEquals (column : String) (literal : Literal) : Call :=
  .notLeaf .lessThan column [literal]

/-- The column equals one of the literals. -/
def inList (column : String) (literals : List Literal) : Call := .leaf .inList column literals

/-- The column lies between the literals, both included. -/
def between (column : String) (lower upper : Literal) : Call :=
  .leaf .between column [lower, upper]

/-- The column is null. -/
def isNull (column : String) : Call := .leaf .isNull column []

end Call

/-- A predicate whose leaves have no place in a table yet. -/
inductive Clause where
  | leaf (comparison : Leaf)
  | and (clauses : List Clause)
  | or (clauses : List Clause)
  | not (clause : Clause)

namespace Clause

/-- The negation of a clause; a negation is taken off rather than doubled. -/
def negate : Clause → Clause
  | .not clause => clause
  | clause => .not clause

/-- The clauses that a clause contributes to a group: its own if it is a group of that kind. -/
def spread (connective : Connective) (clause : Clause) : List Clause :=
  match connective, clause with
  | .and, .and clauses => clauses
  | .or, .or clauses => clauses
  | _, clause => [clause]

/-- The group of some clauses. -/
def join (connective : Connective) (clauses : List Clause) : Except PredicateError Clause :=
  match clauses.flatMap (spread connective) with
  | [] => .error (.emptyGroup connective)
  | [clause] => .ok clause
  | clauses =>
    match connective with
    | .and => .ok (.and clauses)
    | .or => .ok (.or clauses)

end Clause

namespace Call

/-- The leaf of a call; its column must have a name and a list of alternatives must not be empty. -/
def checkedLeaf (operator : Operator) (column : String) (literals : List Literal) :
    Except PredicateError Leaf :=
  if Text.isBlank column then .error .emptyColumn
  else if operator = .inList ∧ literals = [] then .error (.emptyList (Text.lowercase column))
  else .ok (Leaf.make operator column literals)

mutual

/-- The clause of a call. -/
def clause : Call → Except PredicateError Clause
  | .leaf operator column literals => (checkedLeaf operator column literals).map .leaf
  | .notLeaf operator column literals =>
    (checkedLeaf operator column literals).map fun l => (Clause.leaf l).negate
  | .group connective calls => do
    let clauses ← clauses calls
    Clause.join connective clauses
  | .notGroup calls => do
    let clauses ← clauses calls
    let clause ← Clause.join .and clauses
    return clause.negate

/-- The clauses of calls, up to the first fault. -/
def clauses : List Call → Except PredicateError (List Clause)
  | [] => .ok []
  | call :: rest => do
    let first ← clause call
    let rest ← clauses rest
    return first :: rest

end

end Call

/-- The place of a leaf in a table, and the table with the leaf in it. -/
def placeLeaf (leaf : Leaf) (table : List Leaf) : Nat × List Leaf :=
  match table.findIdx? (·.same leaf) with
  | some index => (index, table)
  | none => (table.length, table ++ [leaf])

namespace Clause

mutual

/-- The expression of a clause over a table that takes in its leaves. -/
def place (table : List Leaf) : Clause → Expression × List Leaf
  | .leaf l =>
    let (index, table) := placeLeaf l table
    (.leaf index, table)
  | .and clauses =>
    let (children, table) := placeAll table clauses
    (.and children, table)
  | .or clauses =>
    let (children, table) := placeAll table clauses
    (.or children, table)
  | .not clause =>
    let (child, table) := place table clause
    (.not child, table)

/-- The expressions of clauses, from left to right. -/
def placeAll (table : List Leaf) : List Clause → List Expression × List Leaf
  | [] => ([], table)
  | clause :: rest =>
    let (first, table) := place table clause
    let (rest, table) := placeAll table rest
    (first :: rest, table)

end

end Clause

/-- The search argument of a program whose clauses are joined by a connective. -/
def SearchArgument.build (connective : Connective) (calls : List Call) :
    Except PredicateError SearchArgument := do
  let clauses ← Call.clauses calls
  let clause ← Clause.join connective clauses
  let (expression, leaves) := clause.place []
  ofParts leaves expression

end ColumnScan
