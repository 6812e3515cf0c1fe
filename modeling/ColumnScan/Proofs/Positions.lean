import ColumnScan.Positions
import Mathlib.Data.List.Sort

/-!
# Positions in order

In a sorted list, positions that are the same stand side by side, so dropping those that equal the one
before leaves each once. Main statement: `ascending_eq_filter`, the positions of a schema in ascending
order are those of all its positions that are among them.
-/

namespace ColumnScan

/-! ## Runs of the same position -/

/-- What is left of runs is what was in them: the positions before them, the one at hand, and the rest. -/
theorem mem_dropRuns {a i : Nat} {rest before : List Nat} :
    i ∈ List.eraseRepsBy.loop (· == ·) a rest before ↔ i ∈ before ∨ i ∈ a :: rest := by
  induction rest generalizing a before with
  | nil => simp [List.eraseRepsBy.loop, or_comm]
  | cons b rest ih =>
    rw [List.eraseRepsBy.loop]
    split
    next heq =>
      obtain rfl : a = b := eq_of_beq heq
      simp [ih]
    · simp [ih, or_assoc, or_comm, or_left_comm]

/-- Sorted positions are left strictly ascending: what was left before them is the invariant. -/
theorem pairwise_dropRuns {a : Nat} {rest before : List Nat}
    (hbefore : (before.reverse ++ [a]).Pairwise (· < ·)) (hrest : (a :: rest).Pairwise (· ≤ ·)) :
    (List.eraseRepsBy.loop (· == ·) a rest before).Pairwise (· < ·) := by
  induction rest generalizing a before with
  | nil => rwa [List.eraseRepsBy.loop, List.reverse_cons]
  | cons b rest ih =>
    rw [List.eraseRepsBy.loop]
    obtain ⟨hleast, hmore⟩ := List.pairwise_cons.1 hrest
    split
    next heq =>
      obtain rfl : a = b := eq_of_beq heq
      exact ih hbefore hmore
    next hne =>
      have hlt : a < b := Nat.lt_of_le_of_ne (hleast b List.mem_cons_self) (beq_eq_false_iff_ne.1 hne)
      refine ih ?_ hmore
      -- All that is left so far is below the position at hand, which is below the next one.
      rw [List.reverse_cons, List.pairwise_append]
      refine ⟨hbefore, List.pairwise_singleton _ b, fun i hi => List.forall_mem_singleton.2 ?_⟩
      rcases List.mem_append.1 hi with hi | hi
      · exact Nat.lt_trans ((List.pairwise_append.1 hbefore).2.2 i hi a List.mem_cons_self) hlt
      · exact List.mem_singleton.1 hi ▸ hlt

/-! ## Positions in ascending order -/

variable {positions : List Nat} {i size : Nat}

theorem mem_ascending : i ∈ ascending positions ↔ i ∈ positions := by
  have hsorted : i ∈ positions.mergeSort ↔ i ∈ positions := List.mem_mergeSort
  rw [ascending, List.eraseReps, ← hsorted]
  cases positions.mergeSort with
  | nil => rfl
  | cons a rest => exact mem_dropRuns.trans (or_iff_right List.not_mem_nil)

theorem pairwise_ascending (positions : List Nat) : (ascending positions).Pairwise (· < ·) := by
  have hsorted : positions.mergeSort.Pairwise (· ≤ ·) := List.pairwise_mergeSort' (· ≤ ·) positions
  rw [ascending, List.eraseReps]
  cases hmerge : positions.mergeSort with
  | nil => exact .nil
  | cons a rest => exact pairwise_dropRuns (List.pairwise_singleton _ a) (hmerge ▸ hsorted)

/-- Positions of a schema in ascending order, chosen from all of them. -/
theorem ascending_eq_filter (h : ∀ i ∈ positions, i < size) :
    ascending positions = (List.range size).filter positions.contains := by
  refine (pairwise_ascending positions).eq_of_mem_iff (List.pairwise_lt_range.filter _) fun i => ?_
  rw [mem_ascending, List.mem_filter, List.mem_range, List.contains_iff_mem]
  exact (and_iff_right_of_imp (h i)).symm

/-- The order and the number of times in which positions are asked for make no difference. -/
theorem ascending_congr {others : List Nat} (h : ∀ i, i ∈ positions ↔ i ∈ others) :
    ascending positions = ascending others :=
  (pairwise_ascending positions).eq_of_mem_iff (pairwise_ascending others) fun i => by
    rw [mem_ascending, mem_ascending, h]

/-- Putting positions in order loses none of them. -/
theorem ascending_perm (nodup : positions.Nodup) : (ascending positions).Perm positions :=
  (List.perm_ext_iff_of_nodup ((pairwise_ascending positions).imp Nat.ne_of_lt) nodup).2
    fun _ => mem_ascending

end ColumnScan
