import ColumnScan.Value.Stored

/-!
# Cells of a row

The stored values of one row by position. A row may have any number of cells: writing beyond the end
fills the gap with nulls, and a cell that is not there is told from one that is null. Main
statements: `get_put_self` and `getD_put_of_ne`.
-/

namespace ColumnScan

/-- The identity of a row in a transactional store: the transaction that wrote it, its bucket, and its
place among the rows of that transaction. -/
structure RecordId where
  writeId : Int64
  bucket : Int32
  rowId : Int64
deriving DecidableEq, Repr

/-- The stored values of a row. -/
structure Cells where
  values : List Stored
deriving Inhabited

namespace Cells

/-- A row of nulls. -/
def nulls (size : Nat) : Cells := ⟨List.replicate size .null⟩

/-- The number of cells. -/
def size (c : Cells) : Nat := c.values.length

/-- The cell at a position. -/
def get? (c : Cells) (ordinal : Nat) : Option Stored := c.values[ordinal]?

/-- The value at a position, null if there is no cell. -/
def getD (c : Cells) (ordinal : Nat) : Stored := (c.get? ordinal).getD .null

/-- At least this many cells, nulls added at the end. -/
def padTo (c : Cells) (size : Nat) : Cells :=
  ⟨c.values ++ List.replicate (size - c.values.length) .null⟩

/-- The cells with one overwritten. -/
def put (c : Cells) (ordinal : Nat) (value : Stored) : Cells :=
  ⟨(c.padTo (ordinal + 1)).values.set ordinal value⟩

/-- Null in every cell. -/
def clear (c : Cells) : Cells := nulls c.size

theorem size_padTo (c : Cells) (n : Nat) : (c.padTo n).size = max c.size n := by
  simp only [size, padTo, List.length_append, List.length_replicate]
  omega

theorem get_put_self (c : Cells) (i : Nat) (v : Stored) : (c.put i v).get? i = some v := by
  have h := size_padTo c (i + 1)
  simp only [size] at h
  simp only [put, get?]
  rw [List.getElem?_set_self]
  omega

theorem getD_padTo (c : Cells) (n i : Nat) : (c.padTo n).getD i = c.getD i := by
  simp only [getD, get?, padTo, List.getElem?_append, List.getElem?_replicate]
  split
  · rfl
  · next h =>
    rw [List.getElem?_eq_none (Nat.le_of_not_lt h)]
    split <;> rfl

theorem getD_put_of_ne (c : Cells) {i j : Nat} (h : i ≠ j) (v : Stored) :
    (c.put i v).getD j = c.getD j := by
  rw [← getD_padTo c (i + 1) j]
  simp only [put, getD, get?]
  rw [List.getElem?_set_ne h]

/-- Keeps the cells that pass a test of their position and puts null in the others. -/
def keepFrom (wanted : Nat → Bool) (ordinal : Nat) : List Stored → List Stored
  | [] => []
  | v :: rest => (if wanted ordinal then v else .null) :: keepFrom wanted (ordinal + 1) rest

/-- As many cells as a schema has fields: those at wanted positions, null elsewhere. -/
def project (wanted : Nat → Bool) (size : Nat) (values : List Stored) : Cells :=
  padTo ⟨(keepFrom wanted 0 values).take size⟩ size

end Cells

end ColumnScan
