import ColumnScan.Predicate.Builder

/-!
# Drafting search arguments

A group is drafted call by call. A call that is wrong adds no clause, and what is wrong with it is
noted unless something was wrong before; only the end of the group tells. A group inside another one
is drafted by itself and handed over when it ends, so its fault becomes that of the group around it.
-/

namespace ColumnScan

/-- The clauses of a group so far. -/
structure GroupDraft where
  connective : Connective
  clauses : List Clause := []
  /-- The first thing that was wrong. -/
  fault : Option PredicateError := none

namespace GroupDraft

/-- Takes in a clause, or notes why there is none, unless something was wrong before. -/
def take (d : GroupDraft) : Except PredicateError Clause → GroupDraft
  | .ok clause => { d with clauses := d.clauses ++ [clause] }
  | .error e => { d with fault := d.fault.or (some e) }

/-- The clause of a group that has ended. -/
def finish (d : GroupDraft) : Except PredicateError Clause :=
  match d.fault with
  | some e => .error e
  | none => Clause.join d.connective d.clauses

mutual

/-- Makes one call. -/
def add (d : GroupDraft) : Call → GroupDraft
  | .leaf operator column literals =>
    d.take ((Call.checkedLeaf operator column literals).map .leaf)
  | .notLeaf operator column literals =>
    d.take ((Call.checkedLeaf operator column literals).map fun l => (Clause.leaf l).negate)
  | .group connective calls => d.take (addAll { connective := connective } calls).finish
  | .notGroup calls => d.take ((addAll { connective := .and } calls).finish.map Clause.negate)

/-- Makes calls one after another. -/
def addAll (d : GroupDraft) : List Call → GroupDraft
  | [] => d
  | call :: rest => addAll (add d call) rest

end

/-- The search argument of a draft that has ended. -/
def build (d : GroupDraft) : Except PredicateError SearchArgument := do
  let clause ← d.finish
  let (expression, leaves) := clause.place []
  SearchArgument.ofParts leaves expression

end GroupDraft

end ColumnScan
