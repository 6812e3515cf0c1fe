import ColumnScan.Proofs.Columnar.Rows

/-!
# Batches joined and cut

However rows are divided among batches, the batches joined hold all of them, one after the other, and
however the joined batch is cut again, its pieces show the same rows in the same order, each with the
columns that were selected and null in the others. Main statements: `Batch.Lays.join` and
`Batch.Lays.shows_cut`.
-/

namespace ColumnScan.Columnar.Batch

/-- The columns of the batch hold the entries of these rows, place by place. -/
structure Lays (schema : StructType) (rows : List Cells) (b : Batch) : Prop where
  size : b.size = rows.length
  columns : ∀ k field, schema.field? k = some field → ∃ array, layout field.type = .ok array ∧
    b.columns[k]? = some ⟨array, rows.map fun r => encode field.type (r.getD k)⟩

variable {schema : StructType} {rows : List Cells} {b : Batch}

/-! ## The batch of some rows -/

theorem entries_ofValues (type : DataType) (values : List Stored) :
    (ArrayData.ofValues type values).entries values.length = values.map (encode type) := by
  apply List.ext_getElem?
  intro i
  cases hv : values[i]? with
  | some v =>
    obtain ⟨hi, _⟩ := List.getElem?_eq_some_iff.1 hv
    rw [ArrayData.getElem?_entries hi, ArrayData.datumAt_ofValues type hv, List.getElem?_map, hv]
    rfl
  | none =>
    have hi := List.getElem?_eq_none_iff.1 hv
    rw [List.getElem?_map, hv, ArrayData.entries, List.getElem?_map, List.getElem?_eq_none]
    · rfl
    · rwa [List.length_range]

theorem getElem?_columnsOf {fields : List Field} {slots : List PhysicalField} (ordinal : Nat) {k : Nat}
    {field : Field} {slot : PhysicalField} (hfield : fields[k]? = some field)
    (hslot : slots[k]? = some slot) :
    (columnsOf rows ordinal fields slots)[k]? =
      some ⟨slot.type, rows.map fun r => encode field.type (r.getD (ordinal + k))⟩ := by
  induction fields generalizing slots ordinal k with
  | nil => cases hfield
  | cons first fields ih =>
    cases slots with
    | nil => cases hslot
    | cons head slots =>
      cases k with
      | zero =>
        cases hfield
        cases hslot
        have hentries := entries_ofValues field.type (rows.map (·.getD ordinal))
        rw [List.length_map, List.map_map] at hentries
        rw [columnsOf, List.getElem?_cons_zero, hentries]
        rfl
      | succ k =>
        rw [columnsOf, List.getElem?_cons_succ, Nat.add_comm k, ← Nat.add_assoc]
        exact ih (ordinal + 1) hfield hslot

theorem exists_slot {slots : List PhysicalField} (hslots : layoutSchema schema = .ok slots) {k : Nat}
    {field : Field} (hfield : schema.field? k = some field) :
    ∃ slot, slots[k]? = some slot ∧ layout field.type = .ok slot.type :=
  exists_getElem?_of_forall₂ (layout_of_layoutFields hslots) hfield

theorem lays_of_ofRows (h : Batch.ofRows schema rows = .ok b) : b.Lays schema rows := by
  obtain ⟨slots, hslots, _, rfl⟩ := ofRows_eq_ok_iff.1 h
  refine ⟨rfl, fun k field hfield => ?_⟩
  obtain ⟨slot, hslot, harray⟩ := exists_slot hslots hfield
  refine ⟨slot.type, harray, ?_⟩
  rw [getElem?_columnsOf 0 hfield hslot, Nat.zero_add]

/-! ## Joining -/

theorem Lays.entriesAt (h : b.Lays schema rows) {k : Nat} {field : Field}
    (hfield : schema.field? k = some field) :
    b.entriesAt k = rows.map fun r => encode field.type (r.getD k) := by
  obtain ⟨array, _, hcolumn⟩ := h.columns k field hfield
  rw [Batch.entriesAt, hcolumn]
  rfl

theorem totalSize_of_forall₂ {chunks : List (List Cells)} {batches : List Batch}
    (h : List.Forall₂ (fun rows b => b.size = rows.length) chunks batches) :
    totalSize batches = chunks.flatten.length := by
  induction h with
  | nil => rfl
  | cons hsize _ ih => rw [totalSize, List.flatten_cons, List.length_append, hsize, ih]

/-- The joined batch holds the rows of all batches. -/
theorem Lays.join {slots : List PhysicalField} (hslots : layoutSchema schema = .ok slots)
    {chunks : List (List Cells)} {batches : List Batch}
    (h : List.Forall₂ (fun rows b => Lays schema rows b) chunks batches) :
    (join (slots.map (·.type)) batches).Lays schema chunks.flatten := by
  constructor
  · exact totalSize_of_forall₂ (h.imp fun _ _ hb => hb.size)
  · intro k field hfield
    obtain ⟨slot, hslot, harray⟩ := exists_slot hslots hfield
    refine ⟨slot.type, harray, ?_⟩
    have hentries : batches.flatMap (Batch.entriesAt · k) =
        chunks.flatten.map fun r => encode field.type (r.getD k) := by
      rw [List.map_flatten, List.flatMap_def]
      exact congrArg List.flatten
        (map_eq_map_of_forall₂ (h.imp fun _ _ hb => (hb.entriesAt hfield).symm)).symm
    simp only [Batch.join, List.getElem?_map, List.getElem?_zipIdx, hslot, Option.map_some,
      Nat.zero_add, hentries]

/-! ## Reading some of the columns -/

/-- Columns that hold the values of a row at a place put them into the cells at their positions. -/
theorem readColumns_of_values {index : Nat} {r : Cells} {parts : List (Column × Nat)}
    (h : ∀ p ∈ parts, ∃ field, schema.field? p.2 = some field ∧
      p.1.valueAt field.type index = .ok (r.getD p.2))
    {cells : Cells} (size : cells.size = schema.size) :
    ∃ cells', readColumns schema index parts cells = (.ok (), cells') ∧ cells'.size = schema.size ∧
      ∀ i, cells'.getD i = if i ∈ parts.map (·.2) then r.getD i else cells.getD i := by
  induction parts generalizing cells with
  | nil => exact ⟨cells, rfl, size, fun i => (if_neg List.not_mem_nil).symm⟩
  | cons part rest ih =>
    obtain ⟨column, ordinal⟩ := part
    obtain ⟨⟨field, hfield, hvalue⟩, hrest⟩ := List.forall_mem_cons.1 h
    have hput : (cells.put ordinal (r.getD ordinal)).size = schema.size := by
      obtain ⟨hlt, _⟩ := List.getElem?_eq_some_iff.1 hfield
      rw [Cells.size_put, size]
      exact Nat.max_eq_left hlt
    obtain ⟨cells', hread, hsize, hcells⟩ := ih hrest hput
    refine ⟨cells', ?_, hsize, fun i => ?_⟩
    · rw [readColumns, hfield]
      simp only [hvalue]
      exact hread
    · rw [hcells]
      by_cases hmem : i ∈ rest.map (·.2)
      · rw [if_pos hmem, List.map_cons, if_pos (List.mem_cons_of_mem _ hmem)]
      · rw [if_neg hmem]
        by_cases hi : i = ordinal
        · subst hi
          rw [List.map_cons, if_pos List.mem_cons_self, Cells.getD, Cells.get_put_self,
            Option.getD_some]
        · rw [List.map_cons, if_neg (List.not_mem_cons_of_ne_of_not_mem hi hmem),
            Cells.getD_put_of_ne cells (Ne.symm hi)]

theorem forall₂_filterMap {α β : Type} {R : β → α → Prop} {f : α → Option β} {as : List α}
    (h : ∀ a ∈ as, ∃ b, f a = some b ∧ R b a) : List.Forall₂ R (as.filterMap f) as := by
  induction as with
  | nil => exact .nil
  | cons a as ih =>
    obtain ⟨⟨b, hb, hR⟩, hrest⟩ := List.forall_mem_cons.1 h
    rw [List.filterMap_cons_some hb]
    exact .cons hR (ih hrest)

/-- A place of a piece of a batch holds what the place holds in the batch. -/
theorem Lays.valueAt_slice {k start size i : Nat} {field : Field} {array : PhysicalType} {r : Cells}
    (harray : layout field.type = .ok array) (hi : i < size) (hr : rows[start + i]? = some r)
    (returns : Returns field.type (r.getD k) (r.getD k)) :
    Column.valueAt field.type
      ⟨array, ((rows.map fun r => encode field.type (r.getD k)).drop start).take size⟩ i =
        .ok (r.getD k) := by
  rw [Column.valueAt, List.getElem?_take_of_lt hi, List.getElem?_drop, List.getElem?_map, hr]
  exact returns array harray

/-- A piece of a batch whose values come back as they are shows the wanted columns of its rows. -/
theorem Lays.readRow_slice (h : b.Lays schema rows) (wanted : Nat → Bool) {start size i : Nat}
    (hi : i < size) {r : Cells} (hr : rows[start + i]? = some r)
    (returns : ∀ k field, schema.field? k = some field → Returns field.type (r.getD k) (r.getD k)) :
    readRow schema ((b.select ((List.range schema.size).filter wanted)).slice start size)
        ((List.range schema.size).filter wanted) i =
      (.ok (), .project wanted schema.size r.values) := by
  generalize hordinals : (List.range schema.size).filter wanted = ordinals
  have hmem : ∀ k, k ∈ ordinals ↔ k < schema.size ∧ wanted k = true := by
    intro k
    rw [← hordinals, List.mem_filter, List.mem_range]
  have hparts : List.Forall₂ (fun c k => ∃ field, schema.field? k = some field ∧
      c.valueAt field.type i = .ok (r.getD k)) ((b.select ordinals).slice start size).columns
      ordinals := by
    rw [slice, select, List.map_filterMap]
    refine forall₂_filterMap fun k hk => ?_
    have hlt : k < schema.fields.length := ((hmem k).1 hk).1
    have hfield : schema.field? k = some schema.fields[k] := List.getElem?_eq_getElem hlt
    obtain ⟨array, harray, hcolumn⟩ := h.columns k _ hfield
    rw [hcolumn]
    exact ⟨_, rfl, _, hfield, valueAt_slice harray hi hr (returns k _ hfield)⟩
  have hnulls : (Cells.nulls schema.size).size = schema.size := List.length_replicate
  obtain ⟨cells, hread, hsize, hcells⟩ :=
    readColumns_of_values (fun _ hp => List.forall₂_zip hparts hp) hnulls
  have hpositions : (((b.select ordinals).slice start size).columns.zip ordinals).map (·.2) =
      ordinals := List.map_snd_zip (Nat.le_of_eq hparts.length_eq.symm)
  rw [readRow, hread]
  refine Prod.ext rfl (Cells.ext_getD (hsize.trans (Cells.size_project ..).symm) fun k hk => ?_)
  rw [hsize] at hk
  rw [hcells, hpositions, Cells.getD_project wanted r.values hk]
  by_cases hwanted : wanted k = true
  · rw [if_pos ((hmem k).2 ⟨hk, hwanted⟩), if_pos hwanted]
  · rw [if_neg fun hk => hwanted ((hmem k).1 hk).2, if_neg hwanted, Cells.getD, Cells.get?, Cells.nulls,
      List.getElem?_replicate_of_lt hk]
    rfl

/-! ## Cutting -/

/-- Reading a batch row by row shows these rows. -/
structure Shows (schema : StructType) (ordinals : List Nat) (b : Batch) (rows : List Cells) : Prop where
  size : rows.length = b.size
  reads : ∀ i r, rows[i]? = some r → b.readRow schema ordinals i = (.ok (), r)

/-- A list in pieces of a size, the last of which may be smaller. -/
def pieces {α : Type} (as : List α) (size : Nat) : List (List α) :=
  (List.range ((as.length + size - 1) / size)).map fun k => (as.drop (k * size)).take size

theorem flatten_pieces {α : Type} (as : List α) {size : Nat} (hsize : 0 < size) :
    (pieces as size).flatten = as := by
  have hprefix : ∀ n, ((List.range n).map fun k => (as.drop (k * size)).take size).flatten =
      as.take (n * size) := by
    intro n
    induction n with
    | zero => rw [Nat.zero_mul, List.take_zero]; rfl
    | succ n ih =>
      rw [List.range_succ, List.map_append, List.flatten_append, ih, Nat.succ_mul, List.take_add]
      exact congrArg _ (List.flatten_singleton ..)
  rw [pieces, hprefix]
  apply List.take_of_length_le
  have hdiv := Nat.lt_div_mul_add (a := as.length + size - 1) hsize
  omega

/-- The pieces of a batch show the pieces of its rows. -/
theorem Lays.shows_cut (h : b.Lays schema rows) (wanted : Nat → Bool) (size : Nat)
    (returns : ∀ r ∈ rows, ∀ k field, schema.field? k = some field →
      Returns field.type (r.getD k) (r.getD k)) :
    List.Forall₂ (Shows schema ((List.range schema.size).filter wanted))
      ((b.select ((List.range schema.size).filter wanted)).cut size)
      (pieces (rows.map fun r => .project wanted schema.size r.values) size) := by
  have hlength : (b.select ((List.range schema.size).filter wanted)).size = rows.length := h.size
  rw [cut, pieces, List.length_map, hlength, List.forall₂_map_left_iff, List.forall₂_map_right_iff,
    List.forall₂_same]
  intro k _
  constructor
  · rw [List.length_take, List.length_drop, List.length_map]
    rfl
  · intro i r hr
    obtain ⟨hi, _⟩ := List.getElem?_eq_some_iff.1 hr
    rw [List.length_take, List.length_drop, List.length_map] at hi
    rw [List.getElem?_take_of_lt (Nat.lt_of_lt_of_le hi (Nat.min_le_left ..)), List.getElem?_drop,
      List.getElem?_map, Option.map_eq_some_iff] at hr
    obtain ⟨r, hr, rfl⟩ := hr
    exact h.readRow_slice wanted hi hr (returns r (List.mem_of_getElem? hr))

end ColumnScan.Columnar.Batch
