import ColumnScan.Columnar.Layout
import ColumnScan.Proofs.Outcome

/-!
# Arrays of types, part by part

The array that a type is laid out as is made of the arrays of its parts. Main statements: one equivalence
for each form of a type, and `length_layoutVariants`.
-/

namespace ColumnScan.Columnar

variable {array : PhysicalType} {slots : List PhysicalField}

theorem layout_struct_eq_ok_iff {fields : List (Named DataType)} :
    layout (.struct fields) = .ok array ↔
      ∃ slots, layoutFields fields = .ok slots ∧ .struct slots = array := by
  simp only [layout, bind_eq_ok_iff, pure_eq_ok_iff]

theorem layout_list_eq_ok_iff {element : DataType} :
    layout (.list element) = .ok array ↔
      ∃ item, layout element = .ok item ∧ .list ⟨"element", item, true, notes element⟩ = array := by
  simp only [layout, bind_eq_ok_iff, pure_eq_ok_iff]

/-- The array of the entries of a map, whose keys and values have these arrays. -/
def entriesArray (key value : DataType) (k v : PhysicalType) : PhysicalType :=
  .map
    ⟨"key_value", .struct [⟨"key", k, false, notes key⟩, ⟨"value", v, true, notes value⟩], false, []⟩
    false

theorem layout_map_eq_ok_iff {key value : DataType} :
    layout (.map key value) = .ok array ↔
      ∃ k, layout key = .ok k ∧ ∃ v, layout value = .ok v ∧ entriesArray key value k v = array := by
  simp only [layout, bind_eq_ok_iff, pure_eq_ok_iff, entriesArray]

theorem layout_union_eq_ok_iff {variants : List DataType} :
    layout (.union variants) = .ok array ↔ variants.length ≤ maxArrayVariants ∧
      ∃ slots, layoutVariants 0 variants = .ok slots ∧ .union .dense (numbered slots) = array := by
  rw [layout]
  by_cases hcount : maxArrayVariants < variants.length
  · rw [if_pos hcount]
    exact iff_of_false nofun fun h => absurd h.1 (Nat.not_le_of_lt hcount)
  · rw [if_neg hcount, and_iff_right (Nat.le_of_not_lt hcount)]
    simp only [bind_eq_ok_iff, pure_eq_ok_iff]

theorem layoutFields_cons_eq_ok_iff {name : String} {type : DataType} {rest : List (Named DataType)} :
    layoutFields (⟨name, type⟩ :: rest) = .ok slots ↔ ∃ first, layout type = .ok first ∧
      ∃ others, layoutFields rest = .ok others ∧
        ⟨name, first, true, notes type⟩ :: others = slots := by
  simp only [layoutFields, bind_eq_ok_iff, pure_eq_ok_iff]

theorem layoutVariants_cons_eq_ok_iff {index : Nat} {type : DataType} {rest : List DataType} :
    layoutVariants index (type :: rest) = .ok slots ↔ ∃ first, layout type = .ok first ∧
      ∃ others, layoutVariants (index + 1) rest = .ok others ∧
        ⟨"_" ++ toString index, first, true, notes type⟩ :: others = slots := by
  simp only [layoutVariants, bind_eq_ok_iff, pure_eq_ok_iff]

theorem length_layoutVariants {index : Nat} {variants : List DataType}
    (h : layoutVariants index variants = .ok slots) : slots.length = variants.length := by
  induction variants generalizing index slots with
  | nil =>
    cases h
    rfl
  | cons type rest ih =>
    obtain ⟨_, _, others, hothers, rfl⟩ := layoutVariants_cons_eq_ok_iff.1 h
    rw [List.length_cons, List.length_cons, ih hothers]

end ColumnScan.Columnar
