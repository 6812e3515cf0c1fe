/-!
# Positions of columns

The columns of a source are read in the order of the source, each once, in whatever order and how often
they are asked for: their positions are sorted, and then those that equal the one before are dropped.
-/

namespace ColumnScan

/-- Positions in ascending order, each once. -/
def ascending (positions : List Nat) : List Nat := positions.mergeSort.eraseReps

/-- Whether a position was asked for; without a choice every position is. -/
def isWanted (projection : Option (List Nat)) (ordinal : Nat) : Bool :=
  match projection with
  | none => true
  | some ordinals => ordinals.contains ordinal

end ColumnScan
