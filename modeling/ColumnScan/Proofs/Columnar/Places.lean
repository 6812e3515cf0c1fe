import ColumnScan.Columnar.Batch

/-!
# What a place holds

An array holds at each place what the value laid out there becomes on its own, however its parts are
moved to other arrays: the stretch of a list or a map covers the parts of its own value, and the place
in the array of a variant is the one where the part of its own value went. So everything that is read
from a place can be followed from the value at that place alone. Main statement:
`ArrayData.datumAt_ofValues`.
-/

namespace ColumnScan.Columnar

mutual

/-- What the place of a value holds in a column of a type. -/
def encode : DataType → Stored → Datum
  | .primitive kind, v => (encodeScalar? kind v).getD .null
  | .struct fields, v => if v.isNull then .null else .struct (encodeFields 0 fields v)
  | .list element, v => if v.isNull then .null else .list ((itemsIn v).map (encode element))
  | .map key value, v =>
    if v.isNull then .null
    else .map ((entriesIn v).map fun e => (encode key e.1, encode value e.2))
  | .union variants, v => .union (partOf v).1 (encodeVariant variants (partOf v).1 (partOf v).2)

/-- What the places of the children of a struct hold. -/
def encodeFields (index : Nat) : List (Named DataType) → Stored → List Datum
  | [], _ => []
  | ⟨_, type⟩ :: rest, v => encode type (childAt index v) :: encodeFields (index + 1) rest v

/-- What the place of a value of the variant at a position holds. -/
def encodeVariant : List DataType → Nat → Stored → Datum
  | [], _, _ => .null
  | type :: _, 0, v => encode type v
  | _ :: rest, index + 1, v => encodeVariant rest index v

end

/-! ## Where the parts are -/

section Parts

variable {α β : Type}

/-- The items before an item, the item and those after it are all of them. -/
theorem take_append_cons_drop {as : List α} {i : Nat} {a : α} (h : as[i]? = some a) :
    as.take i ++ a :: as.drop (i + 1) = as := by
  obtain ⟨hi, rfl⟩ := List.getElem?_eq_some_iff.1 h
  rw [← List.drop_eq_getElem_cons hi, List.take_append_drop]

/-- The parts of an item begin after those of the items before it. -/
theorem getElem?_flatMap {f : α → List β} {as : List α} {i : Nat} {a : α} (h : as[i]? = some a)
    {k : Nat} (hk : k < (f a).length) :
    (as.flatMap f)[((as.take i).flatMap f).length + k]? = (f a)[k]? := by
  have hsplit : as.flatMap f = (as.take i).flatMap f ++ (f a ++ (as.drop (i + 1)).flatMap f) := by
    rw [← List.flatMap_cons, ← List.flatMap_append, take_append_cons_drop h]
  rw [hsplit, List.getElem?_append_right (Nat.le_add_right _ _), Nat.add_sub_cancel_left,
    List.getElem?_append_left hk]

/-- An item that is kept goes to the place after those kept before it. -/
theorem getElem?_filterMap {f : α → Option β} {as : List α} {i : Nat} {a : α} {b : β}
    (h : as[i]? = some a) (hb : f a = some b) :
    (as.filterMap f)[((as.take i).filterMap f).length]? = some b := by
  have hsplit : as.filterMap f =
      (as.take i).filterMap f ++ b :: (as.drop (i + 1)).filterMap f := by
    rw [← List.filterMap_cons_some hb, ← List.filterMap_append, take_append_cons_drop h]
  rw [hsplit, List.getElem?_append_right (Nat.le_refl _), Nat.sub_self, List.getElem?_cons_zero]

/-- As many parts as there are before an item, so far from the start is its offset. -/
theorem getElem?_offsetsFrom {f : α → List β} {as : List α} {i : Nat} (h : i ≤ as.length)
    (start : Nat) :
    (offsetsFrom start (as.map fun a => (f a).length))[i]? =
      some (start + ((as.take i).flatMap f).length) := by
  induction as generalizing i start with
  | nil =>
    obtain rfl : i = 0 := Nat.le_zero.1 h
    rfl
  | cons a as ih =>
    cases i with
    | zero => rfl
    | succ i =>
      rw [List.map_cons, offsetsFrom, List.getElem?_cons_succ, ih (Nat.le_of_succ_le_succ h),
        List.take_succ_cons, List.flatMap_cons, List.length_append, Nat.add_assoc]

theorem getD_offsetsOf {f : α → List β} {as : List α} {i : Nat} (h : i ≤ as.length) :
    (offsetsOf (as.map fun a => (f a).length)).getD i 0 = ((as.take i).flatMap f).length := by
  rw [offsetsOf, List.getD_eq_getElem?_getD, getElem?_offsetsFrom h, Nat.zero_add, Option.getD_some]

end Parts

/-- The stretch of a place covers the parts of the value at that place. -/
theorem map_stretch {α β : Type} {f : Stored → List α} {values : List Stored} {i : Nat} {v : Stored}
    (h : values[i]? = some v) {g : Nat → β} {e : α → β}
    (hg : ∀ k a, (values.flatMap f)[k]? = some a → g k = e a) :
    (stretch (offsetsOf (values.map fun v => (f v).length)) i).map g = (f v).map e := by
  obtain ⟨hi, hvi⟩ := List.getElem?_eq_some_iff.1 h
  have hnext : ((values.take (i + 1)).flatMap f).length =
      ((values.take i).flatMap f).length + (f v).length := by
    rw [List.take_succ_eq_append_getElem hi, hvi, List.flatMap_append, List.length_append,
      List.flatMap_singleton]
  rw [stretch, getD_offsetsOf (Nat.le_of_lt hi), getD_offsetsOf hi, hnext, Nat.add_sub_cancel_left]
  apply List.ext_getElem
  · rw [List.length_map, List.length_map, List.length_range']
  · intro k hk hk'
    rw [List.length_map] at hk'
    rw [List.getElem_map, List.getElem_map, List.getElem_range', Nat.one_mul]
    apply hg
    rw [getElem?_flatMap h hk', List.getElem?_eq_getElem hk']

theorem isValidAt_validity {values : List Stored} {i : Nat} {v : Stored} (h : values[i]? = some v) :
    isValidAt (validity values) i = !v.isNull := by
  unfold validity
  split
  next =>
    rw [isValidAt, List.getD_eq_getElem?_getD, List.getElem?_map, h]
    rfl
  next hnone =>
    have hv : v.isNull = false := by
      rw [Bool.not_eq_true, List.any_eq_false] at hnone
      exact Bool.eq_false_iff.2 (hnone v (List.mem_of_getElem? h))
    rw [isValidAt, hv]
    rfl

theorem getElem?_childrenAt {values : List Stored} {i : Nat} {v : Stored} (h : values[i]? = some v)
    (index : Nat) : (childrenAt index values)[i]? = some (childAt index v) := by
  rw [childrenAt, List.getElem?_map, h]
  rfl

/-- The place of a value of a union is where its part went. -/
theorem getElem?_valuesOf {values : List Stored} {i : Nat} {v : Stored} (h : values[i]? = some v) :
    (valuesOf (partOf v).1 values)[(placesOf (values.map fun v => (partOf v).1)).getD i 0]? =
      some (partOf v).2 := by
  have hplace : (placesOf (values.map fun v => (partOf v).1)).getD i 0 =
      (valuesOf (partOf v).1 (values.take i)).length := by
    rw [placesOf, List.getD_eq_getElem?_getD, List.getElem?_map, List.getElem?_zipIdx,
      List.getElem?_map, h, length_valuesOf, List.map_take]
    simp only [Option.map_some, Option.getD_some, Nat.zero_add]
  rw [hplace]
  simp only [valuesOf, List.filterMap_map]
  exact getElem?_filterMap h (if_pos rfl)

/-! ## Every place -/

namespace ArrayData

mutual

/-- A place of an array holds what the value laid out there becomes on its own. -/
theorem datumAt_ofValues (type : DataType) {values : List Stored} {i : Nat} {v : Stored}
    (h : values[i]? = some v) : (ofValues type values).datumAt i = encode type v := by
  cases type with
  | primitive kind =>
    rw [ofValues, datumAt, List.getD_eq_getElem?_getD, List.getElem?_map, h]
    rfl
  | struct fields =>
    rw [ofValues, datumAt, isValidAt_validity h, datumsAt_ofFields fields 0 h, encode]
    cases v.isNull <;> rfl
  | list element =>
    have hitems := map_stretch (f := itemsIn) h fun k a ha => datumAt_ofValues element ha
    rw [ofValues, datumAt, isValidAt_validity h, itemsOf, hitems, encode]
    cases v.isNull <;> rfl
  | map key value =>
    have hentries := map_stretch (f := entriesIn) h
      (g := fun k => ((ofValues key ((entriesOf values).map (·.1))).datumAt k,
        (ofValues value ((entriesOf values).map (·.2))).datumAt k))
      (e := fun e => (encode key e.1, encode value e.2)) fun k e he => by
        have hk : ((entriesOf values).map (·.1))[k]? = some e.1 := by
          rw [List.getElem?_map, entriesOf, he]
          rfl
        have hv : ((entriesOf values).map (·.2))[k]? = some e.2 := by
          rw [List.getElem?_map, entriesOf, he]
          rfl
        rw [datumAt_ofValues key hk, datumAt_ofValues value hv]
    rw [ofValues, datumAt, isValidAt_validity h, hentries, encode]
    cases v.isNull <;> rfl
  | union variants =>
    have hid : (values.map fun v => (partOf v).1).getD i 0 = (partOf v).1 := by
      rw [List.getD_eq_getElem?_getD, List.getElem?_map, h]
      rfl
    have hpart := getElem?_valuesOf h
    rw [← Nat.zero_add (partOf v).1] at hpart
    rw [ofValues, datumAt, hid, encode, variantAt_ofVariants variants hpart]

theorem datumsAt_ofFields (fields : List (Named DataType)) (index : Nat) {values : List Stored}
    {i : Nat} {v : Stored} (h : values[i]? = some v) :
    datumsAt (ofFields index fields values) i = encodeFields index fields v := by
  cases fields with
  | nil => rfl
  | cons field rest =>
    obtain ⟨_, type⟩ := field
    rw [ofFields, datumsAt, encodeFields, datumAt_ofValues type (getElem?_childrenAt h index),
      datumsAt_ofFields rest (index + 1) h]

theorem variantAt_ofVariants (variants : List DataType) {index id place : Nat} {values : List Stored}
    {v : Stored} (h : (valuesOf (index + id) values)[place]? = some v) :
    variantAt (ofVariants index variants values) id place = encodeVariant variants id v := by
  cases variants with
  | nil => rfl
  | cons type rest =>
    cases id with
    | zero => exact datumAt_ofValues type h
    | succ id =>
      rw [Nat.add_comm id, ← Nat.add_assoc] at h
      exact variantAt_ofVariants rest h

end

theorem getElem?_entries {a : ArrayData} {size i : Nat} (h : i < size) :
    (a.entries size)[i]? = some (a.datumAt i) := by
  rw [entries, List.getElem?_map, List.getElem?_range h]
  rfl

end ArrayData

end ColumnScan.Columnar
