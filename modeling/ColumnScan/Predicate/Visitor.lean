import ColumnScan.Predicate.SearchArgument

/-!
# Visiting a search argument

A visitor gives a value to every node of a search argument from the values of its children, from the
left to the right and from the leaves up. It runs in any monad, so it may fail or keep a record.
-/

namespace ColumnScan

/-- What a visitor does at each kind of node. -/
structure ExpressionVisitor (m : Type → Type) (α : Type) where
  leaf : Nat → Leaf → m α
  constant : Truth → m α
  not : α → m α
  and : List α → m α
  or : List α → m α

namespace ExpressionVisitor

variable {m : Type → Type} [Monad m] {α : Type}

mutual

/-- Visits an expression over a table of leaves. -/
def visit (v : ExpressionVisitor m α) (leaves : List Leaf) : Expression → m α
  | .leaf index =>
    match leaves[index]? with
    | some leaf => v.leaf index leaf
    | none => v.constant .unknown
  | .constant value => v.constant value
  | .not child => do
    let value ← visit v leaves child
    v.not value
  | .and children => do
    let values ← visitAll v leaves children
    v.and values
  | .or children => do
    let values ← visitAll v leaves children
    v.or values

/-- Visits expressions from left to right. -/
def visitAll (v : ExpressionVisitor m α) (leaves : List Leaf) : List Expression → m (List α)
  | [] => pure []
  | e :: rest => do
    let first ← visit v leaves e
    let rest ← visitAll v leaves rest
    return first :: rest

end

/-- Visits a whole search argument. -/
def visitArgument (v : ExpressionVisitor m α) (a : SearchArgument) : m α :=
  visit v a.leaves a.expression

end ExpressionVisitor

end ColumnScan
