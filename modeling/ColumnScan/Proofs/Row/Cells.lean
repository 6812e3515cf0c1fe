import ColumnScan.Row.Cells

/-!
# Cells by position

Two rows of one size with the same values are the same, so a row is told by what each of its positions
reads. Main statements: `ext_getD` and `getD_project`.
-/

namespace ColumnScan

namespace Cells

theorem ext_getD {a b : Cells} (hsize : a.size = b.size) (h : ∀ i < a.size, a.getD i = b.getD i) :
    a = b := by
  obtain ⟨as⟩ := a
  obtain ⟨bs⟩ := b
  apply congrArg mk
  apply List.ext_getElem hsize
  intro i hi hi'
  have hget := h i hi
  simp only [getD, get?, List.getElem?_eq_getElem hi, List.getElem?_eq_getElem hi'] at hget
  exact hget

theorem getD_of_values {vs : List Stored} {i : Nat} {v : Stored} (h : vs[i]? = some v) :
    (mk vs).getD i = v := by
  rw [getD, get?, h, Option.getD_some]

theorem get?_eq_some_getD {c : Cells} {i : Nat} (hi : i < c.size) : c.get? i = some (c.getD i) := by
  have hget : c.get? i = some (c.values.get ⟨i, hi⟩) := List.getElem?_eq_getElem hi
  rw [getD, hget, Option.getD_some]

theorem size_put (c : Cells) (ordinal : Nat) (value : Stored) :
    (c.put ordinal value).size = max c.size (ordinal + 1) := by
  rw [put, size, List.length_set]
  exact size_padTo c (ordinal + 1)

theorem getElem?_keepFrom (wanted : Nat → Bool) (start : Nat) (values : List Stored) (i : Nat) :
    (keepFrom wanted start values)[i]? =
      values[i]?.map fun v => if wanted (start + i) then v else .null := by
  induction values generalizing start i with
  | nil => rfl
  | cons v rest ih =>
    cases i with
    | zero => rfl
    | succ i =>
      rw [keepFrom, List.getElem?_cons_succ, List.getElem?_cons_succ, ih, Nat.add_right_comm]
      rfl

theorem size_project (wanted : Nat → Bool) (size : Nat) (values : List Stored) :
    (project wanted size values).size = size := by
  rw [project, size_padTo]
  exact Nat.max_eq_right (List.length_take_le ..)

theorem getD_project (wanted : Nat → Bool) {size i : Nat} (values : List Stored) (hi : i < size) :
    (project wanted size values).getD i = if wanted i then (mk values).getD i else .null := by
  rw [project, getD_padTo]
  simp only [getD, get?, List.getElem?_take, if_pos hi, getElem?_keepFrom, Nat.zero_add]
  cases values[i]? with
  | none => split <;> rfl
  | some v => rfl

/-- A projected row holds a value of the row or null. -/
theorem getD_project_or (wanted : Nat → Bool) (size : Nat) (values : List Stored) (i : Nat) :
    (project wanted size values).getD i = .null ∨
      (project wanted size values).getD i = (mk values).getD i := by
  by_cases hi : i < size
  · rw [getD_project wanted values hi]
    split
    · exact .inr rfl
    · exact .inl rfl
  · have hsize : (project wanted size values).values.length ≤ i := by
      have h := size_project wanted size values
      rw [Cells.size] at h
      omega
    rw [getD, get?, List.getElem?_eq_none hsize]
    exact .inl rfl

end Cells

end ColumnScan
