import ColumnScan.Proofs.Columnar.RoundTrip
import ColumnScan.Proofs.Convert.Soundness
import ColumnScan.Proofs.Row.Cells

/-!
# Rows through a batch and back

A batch gives back as many rows as were put into it, each with one value for every field of the schema,
namely what comes back from the column of the field. So the rows that come out can be put in again, where
the first variants of unions take nulls and have room for them, and come out as they are, and rows of
values that a stock converter stored come out as they were put in. Main statement: `Batch.rows_of_ofRows`.
-/

namespace ColumnScan.Columnar

theorem Column.valueAt_ofValues {type : DataType} {array : PhysicalType} {values : List Stored}
    {i : Nat} {v w : Stored} (hv : values[i]? = some v) (harray : layout type = .ok array)
    (h : Returns type v w) :
    (Column.mk array ((ArrayData.ofValues type values).entries values.length)).valueAt type i =
      .ok w := by
  obtain ⟨hi, _⟩ := List.getElem?_eq_some_iff.1 hv
  rw [Column.valueAt, ArrayData.getElem?_entries hi, Option.getD_some,
    ArrayData.datumAt_ofValues type hv]
  exact h array harray

namespace Batch

/-- A row comes back as another one, field by field. -/
def RowReturns (schema : StructType) (r r' : Cells) : Prop :=
  r'.size = schema.size ∧
    ∀ i field, schema.field? i = some field → Returns field.type (r.getD i) (r'.getD i)

/-! ## Reading -/

theorem put_append (done : List Stored) (w : Stored) (size : Nat) :
    Cells.put ⟨done ++ List.replicate (size + 1) .null⟩ done.length w =
      ⟨done ++ [w] ++ List.replicate size .null⟩ := by
  have hpad : done.length + 1 - (done ++ List.replicate (size + 1) Stored.null).length = 0 := by
    rw [List.length_append, List.length_replicate]
    omega
  rw [Cells.put, Cells.padTo, hpad, List.replicate_zero, List.append_nil, List.replicate_succ,
    List.set_append_right _ _ (Nat.le_refl _), Nat.sub_self, List.set_cons_zero, List.append_assoc]
  rfl

theorem readColumns_columnsOf {schema : StructType} {rows : List Cells} {i : Nat} {r : Cells}
    (hr : rows[i]? = some r) {fields : List Field} {slots : List PhysicalField}
    (hslots : List.Forall₂ (fun field slot => layout field.type = .ok slot.type) fields slots)
    (done ws : List Stored) (size : ws.length = fields.length)
    (hfields : ∀ k field, fields[k]? = some field → schema.field? (done.length + k) = some field)
    (h : ∀ k field w, fields[k]? = some field → ws[k]? = some w →
      Returns field.type (r.getD (done.length + k)) w) :
    readColumns schema i
        ((columnsOf rows done.length fields slots).zip (List.range' done.length fields.length))
        ⟨done ++ List.replicate fields.length .null⟩ = (.ok (), ⟨done ++ ws⟩) := by
  induction hslots generalizing done ws with
  | nil =>
    obtain rfl := List.length_eq_zero_iff.1 size
    rfl
  | @cons field slot fields slots hslot _ ih =>
    cases ws with
    | nil => cases size
    | cons w ws =>
      have hfield : schema.field? done.length = some field := hfields 0 field rfl
      have hcell : (rows.map (·.getD done.length))[i]? = some (r.getD done.length) := by
        rw [List.getElem?_map, hr]
        rfl
      have hvalue := Column.valueAt_ofValues hcell hslot (h 0 field w rfl rfl)
      rw [List.length_map] at hvalue
      have hlength : (done ++ [w]).length = done.length + 1 := List.length_append
      have hrest := ih (done ++ [w]) ws (Nat.succ.inj size)
        (fun k field hk => by
          rw [hlength, Nat.add_assoc, Nat.add_comm 1]
          exact hfields (k + 1) field hk)
        fun k field w hk hw => by
          rw [hlength, Nat.add_assoc, Nat.add_comm 1]
          exact h (k + 1) field w hk hw
      rw [hlength, List.append_assoc done [w] ws] at hrest
      rw [columnsOf, List.length_cons, List.range'_succ, List.zip_cons_cons, readColumns, hfield]
      simp only [hvalue, put_append]
      exact hrest

theorem readRow_columnsOf {schema : StructType} {rows : List Cells} {i : Nat} {r r' : Cells}
    (hr : rows[i]? = some r) {slots : List PhysicalField} (hslots : layoutSchema schema = .ok slots)
    (h : RowReturns schema r r') :
    readRow schema ⟨rows.length, columnsOf rows 0 schema.fields slots⟩ (List.range schema.size) i =
      (.ok (), r') := by
  obtain ⟨hsize, hfields⟩ := h
  have hfields' : ∀ k field, schema.fields[k]? = some field →
      schema.field? (([] : List Stored).length + k) = some field := by
    intro k field hk
    rwa [List.length_nil, Nat.zero_add]
  have hparts := readColumns_columnsOf hr (layout_of_layoutFields hslots) [] r'.values hsize hfields'
    fun k field w hk hw => by
      have hreturns := hfields k field hk
      rw [Cells.getD_of_values hw] at hreturns
      rwa [List.length_nil, Nat.zero_add]
  rw [readRow, List.range_eq_range']
  exact hparts

/-- The rows come back that the rows put in come back as. -/
theorem rows_columnsOf {schema : StructType} {rows rows' : List Cells} {slots : List PhysicalField}
    (hslots : layoutSchema schema = .ok slots) (h : List.Forall₂ (RowReturns schema) rows rows') :
    Batch.rows schema ⟨rows.length, columnsOf rows 0 schema.fields slots⟩ = .ok rows' := by
  rw [Batch.rows, mapM_eq_ok_iff]
  refine List.forall₂_iff_get.2 ⟨?_, fun i hi hi' => ?_⟩
  · rw [List.length_range, h.length_eq]
  · rw [List.length_range] at hi
    have hrow : rows[i]? = some rows[i] := List.getElem?_eq_getElem hi
    have hreturns : RowReturns schema rows[i] rows'[i] := (List.forall₂_iff_get.1 h).2 i hi hi'
    simp only [List.get_eq_getElem, List.getElem_range, readRow_columnsOf hrow hslots hreturns]

/-! ## Checking -/

theorem checkColumns_eq_ok_iff {rows : List Cells} {ordinal : Nat} {fields : List Field} :
    checkColumns rows ordinal fields = .ok () ↔ ∀ k field, fields[k]? = some field →
      check field.name (rows.map (·.getD (ordinal + k))) field.type = .ok () := by
  induction fields generalizing ordinal with
  | nil => exact ⟨fun _ => nofun, fun _ => rfl⟩
  | cons field fields ih =>
    rw [checkColumns, andThen_eq_ok_iff, ih]
    constructor
    · rintro ⟨hfirst, hrest⟩ k field' hk
      cases k with
      | zero =>
        cases hk
        exact hfirst
      | succ k =>
        rw [Nat.add_comm k, ← Nat.add_assoc]
        exact hrest k field' hk
    · intro h
      refine ⟨h 0 field rfl, fun k field' hk => ?_⟩
      rw [Nat.add_assoc, Nat.add_comm 1]
      exact h (k + 1) field' hk

theorem ofRows_eq_ok_iff {schema : StructType} {rows : List Cells} {b : Batch} :
    Batch.ofRows schema rows = .ok b ↔
      ∃ slots, layoutSchema schema = .ok slots ∧
        (∀ k field, schema.field? k = some field →
          check field.name (rows.map (·.getD k)) field.type = .ok ()) ∧
        b = ⟨rows.length, columnsOf rows 0 schema.fields slots⟩ := by
  rw [Batch.ofRows, bind_eq_ok_iff]
  refine exists_congr fun slots => and_congr_right fun _ => ?_
  rw [andThen_eq_ok_iff, pure_eq_ok_iff, checkColumns_eq_ok_iff, eq_comm (b := b)]
  simp only [Nat.zero_add, StructType.field?]

/-! ## There and back -/

/-- The value is null, or the stock converter of the type stores some value as it. -/
def IsStocked (type : DataType) (v : Stored) : Prop :=
  v = .null ∨ ∃ c value, ConverterFactory.stock.build type = .ok c ∧ c.toStored value = .ok v

theorem IsStocked.conforms {type : DataType} {v : Stored} (h : IsStocked type v) : Conforms type v := by
  obtain rfl | ⟨c, value, hc, hv⟩ := h
  · exact .null type
  · exact (ConverterFactory.stock_of_build hc).storesInto value v hv

/-- A row comes back as another one, field by field, which comes back as itself. -/
structure RowLands (schema : StructType) (r r' : Cells) : Prop where
  size : r'.size = schema.size
  fields : ∀ i field, schema.field? i = some field → Lands field.type (r.getD i) (r'.getD i)

theorem RowLands.returns {schema : StructType} {r r' : Cells} (h : RowLands schema r r') :
    RowReturns schema r r' :=
  ⟨h.size, fun i field hfield => (h.fields i field hfield).returns⟩

theorem exists_rowLands {schema : StructType} {r : Cells}
    (fits : ∀ i field, schema.field? i = some field → Fits field.type (r.getD i)) :
    ∃ r', RowLands schema r r' := by
  obtain ⟨ws, hsize, hws⟩ :=
    exists_getElem?_of_forall (R := fun i (field : Field) w => Lands field.type (r.getD i) w)
      fun i field hfield => (fits i field hfield).exists_lands
  refine ⟨⟨ws⟩, hsize, fun i field hfield => ?_⟩
  obtain ⟨hi, _⟩ := List.getElem?_eq_some_iff.1 hfield
  have hw : ws[i]? = some ws[i] := List.getElem?_eq_getElem (hsize.symm ▸ hi)
  rw [Cells.getD_of_values hw]
  exact hws i field ws[i] hfield hw

/-- A row with the same values as another one as far as it goes. -/
theorem cut_eq {r r' : Cells} {size : Nat} (hsize : r'.size = size)
    (h : ∀ i < size, r.getD i = r'.getD i) : Cells.padTo ⟨r.values.take size⟩ size = r' := by
  have hcut : (Cells.padTo ⟨r.values.take size⟩ size).size = size := by
    rw [Cells.size_padTo]
    exact Nat.max_eq_right (List.length_take_le ..)
  apply Cells.ext_getD (hcut.trans hsize.symm)
  intro i hi
  rw [hcut] at hi
  rw [Cells.getD_padTo, ← h i hi, Cells.getD, Cells.getD, Cells.get?, Cells.get?,
    List.getElem?_take_of_lt hi]

section

variable {schema : StructType} {rows rows' : List Cells} {b : Batch}

/-- Every row of a batch comes back. -/
theorem exists_rows_of_ofRows (h : Batch.ofRows schema rows = .ok b) :
    ∃ rows', b.rows schema = .ok rows' ∧ List.Forall₂ (RowLands schema) rows rows' := by
  obtain ⟨slots, hslots, hchecks, rfl⟩ := ofRows_eq_ok_iff.1 h
  have hlands : ∀ r ∈ rows, ∃ r', RowLands schema r r' := fun r hr =>
    exists_rowLands fun i field hfield =>
      fits_of_check field.type (hchecks i field hfield) (List.mem_map_of_mem hr)
  obtain ⟨rows', hrows'⟩ := exists_forall₂ hlands
  exact ⟨rows', rows_columnsOf hslots (hrows'.imp fun _ _ hr => hr.returns), hrows'⟩

/-- The rows that came back are taken again exactly if there is room for them, and come back as they
are. -/
theorem roomy_iff_ofRows_again (h : Batch.ofRows schema rows = .ok b)
    (nulls : ∀ field ∈ schema.fields, field.type.FirstTakesNull)
    (lands : ∀ r' ∈ rows', ∃ r, RowLands schema r r') :
    (∀ i field, schema.field? i = some field → Roomy field.type (rows'.map (·.getD i))) ↔
      ∃ b', Batch.ofRows schema rows' = .ok b' ∧ b'.rows schema = .ok rows' := by
  obtain ⟨slots, hslots, hchecks, rfl⟩ := ofRows_eq_ok_iff.1 h
  have hagain : ∀ r' ∈ rows', ∀ i field, schema.field? i = some field →
      Fits field.type (r'.getD i) ∧ Returns field.type (r'.getD i) (r'.getD i) := by
    intro r' hr' i field hfield
    obtain ⟨r, hr⟩ := lands r' hr'
    exact (hr.fields i field hfield).again ⟨_, _, hchecks i field hfield⟩
      (nulls field (List.mem_of_getElem? hfield))
  constructor
  · intro roomy
    have htaken : ∀ i field, schema.field? i = some field →
        check field.name (rows'.map (·.getD i)) field.type = .ok () := fun i field hfield =>
      check_of_fits field.type (hchecks i field hfield)
        (List.forall_mem_map.2 fun r' hr' => (hagain r' hr' i field hfield).1) (roomy i field hfield)
    refine ⟨_, ofRows_eq_ok_iff.2 ⟨slots, hslots, htaken, rfl⟩, ?_⟩
    refine rows_columnsOf hslots (List.forall₂_same.2 fun r' hr' => ?_)
    obtain ⟨r, hr⟩ := lands r' hr'
    exact ⟨hr.size, fun i field hfield => (hagain r' hr' i field hfield).2⟩
  · rintro ⟨b', hb', _⟩ i field hfield
    obtain ⟨_, _, htaken, _⟩ := ofRows_eq_ok_iff.1 hb'
    exact roomy_of_check field.type (htaken i field hfield)

theorem RowLands.eq_cut {r r' : Cells} (h : RowLands schema r r')
    (conforms : ∀ i field, schema.field? i = some field → Conforms field.type (r.getD i)) :
    Cells.padTo ⟨r.values.take schema.size⟩ schema.size = r' := by
  refine cut_eq h.size fun i hi => ?_
  have hfield : schema.field? i = some schema.fields[i] := List.getElem?_eq_getElem hi
  exact (h.fields i _ hfield).same (conforms i _ hfield)

end

/-- Every row of a batch comes back, as many rows as there were, each with one value for every field. If
null can go to the first variant of every union, the rows that came back can be put in again exactly if
no variant gets more of their values than it has places, and come back unchanged; and the rows that were
put in come back themselves, cut or filled with nulls to the size of the schema, if their values were
stored by stock converters or are null or missing. -/
theorem rows_of_ofRows {schema : StructType} {rows : List Cells} {b : Batch}
    (h : Batch.ofRows schema rows = .ok b) :
    ∃ rows', b.rows schema = .ok rows' ∧ rows'.length = rows.length ∧
      (∀ r ∈ rows', r.size = schema.size) ∧
      ((∀ field ∈ schema.fields, field.type.FirstTakesNull) →
        ((∀ i field, schema.field? i = some field → Roomy field.type (rows'.map (·.getD i))) ↔
          ∃ b', Batch.ofRows schema rows' = .ok b' ∧ b'.rows schema = .ok rows')) ∧
      ((∀ r ∈ rows, ∀ i field, schema.field? i = some field → IsStocked field.type (r.getD i)) →
        rows' = rows.map fun r => Cells.padTo ⟨r.values.take schema.size⟩ schema.size) := by
  obtain ⟨rows', hread, hrows'⟩ := exists_rows_of_ofRows h
  have hback : ∀ r' ∈ rows', ∃ r, RowLands schema r r' := by
    intro r' hr'
    obtain ⟨r, _, hr⟩ := exists_mem_of_forall₂ hrows'.flip r' hr'
    exact ⟨r, hr⟩
  refine ⟨rows', hread, hrows'.length_eq.symm, ?_, fun hnulls => roomy_iff_ofRows_again h hnulls hback, ?_⟩
  · intro r' hr'
    obtain ⟨r, hr⟩ := hback r' hr'
    exact hr.size
  · intro hstocked
    refine (map_eq_of_forall₂ hrows' fun r hr r' hlands => ?_).symm
    exact hlands.eq_cut fun i field hfield => (hstocked r hr i field hfield).conforms

/-- Prices of articles that are told by number or by code. -/
def offers : StructType :=
  ⟨[⟨"price", .primitive (.decimal 5 3)⟩, ⟨"article", .union [.primitive .int, .primitive (.char 3)]⟩],
    by decide +kernel⟩

/-- A price of twelve and a half. -/
def price : Stored := .scalar (.decimal ⟨12500, 3, by decide, by decide⟩)

/-- A row without cells, one without an article, and one with a cell too many. -/
def raggedOffers : List Cells :=
  [⟨[]⟩, ⟨[price]⟩, ⟨[.null, .union 1 (.char (.cut "ab" 3)), .scalar (.int 7)]⟩]

/-- What comes back of them. -/
def fullOffers : List Cells :=
  [⟨[.null, .null]⟩, ⟨[price, .null]⟩, ⟨[.null, .union 1 (.char (.cut "ab" 3))]⟩]

theorem rows_of_ofRows_raggedOffers :
    ∃ b, Batch.ofRows offers raggedOffers = .ok b ∧ b.rows offers = .ok fullOffers ∧
      ∃ b', Batch.ofRows offers fullOffers = .ok b' ∧ b'.rows offers = .ok fullOffers := by
  obtain ⟨rows', hrows, _, _, hagain, hsame⟩ := @rows_of_ofRows offers raggedOffers _ rfl
  have hvalid : offers.validate = .ok () := rfl
  have hfit : Converter.fitDecimal? 5 3 ⟨12500, 3, by decide, by decide⟩ =
      some ⟨12500, 3, by decide, by decide⟩ := by decide +kernel
  have hprice : IsStocked (.primitive (.decimal 5 3)) price := by
    refine .inr ⟨_, .scalar (.decimal ⟨12500, 3, by decide, by decide⟩), rfl, ?_⟩
    simp only [Converter.toStored, Converter.ofKind, Converter.decimal, Converter.decimalOf?, hfit,
      price]
  have harticle : IsStocked (.union [.primitive .int, .primitive (.char 3)])
      (.union 1 (.char (.cut "ab" 3))) := .inr ⟨_, .scalar (.string "ab"), rfl, rfl⟩
  have hprices : ∀ r ∈ raggedOffers, IsStocked (.primitive (.decimal 5 3)) (r.getD 0) :=
    List.forall_mem_cons.2 ⟨.inl rfl, List.forall_mem_cons.2
      ⟨hprice, List.forall_mem_singleton.2 (.inl rfl)⟩⟩
  have harticles : ∀ r ∈ raggedOffers,
      IsStocked (.union [.primitive .int, .primitive (.char 3)]) (r.getD 1) :=
    List.forall_mem_cons.2 ⟨.inl rfl, List.forall_mem_cons.2
      ⟨.inl rfl, List.forall_mem_singleton.2 harticle⟩⟩
  have hstocked : ∀ r ∈ raggedOffers, ∀ i field, offers.field? i = some field →
      IsStocked field.type (r.getD i) := by
    intro r hr i field hfield
    have hi : i < 2 := (List.getElem?_eq_some_iff.1 hfield).1
    rcases Nat.lt_succ_iff_lt_or_eq.1 hi with hi | rfl
    · obtain rfl : i = 0 := Nat.lt_one_iff.1 hi
      cases hfield
      exact hprices r hr
    · cases hfield
      exact harticles r hr
  obtain rfl : rows' = fullOffers := hsame hstocked
  have hnulls : ∀ field ∈ offers.fields, field.type.FirstTakesNull := fun field hmem =>
    (DataType.takesNull_of_validateFields hvalid field hmem).2
  have hroomy : ∀ i field, offers.field? i = some field →
      Roomy field.type (fullOffers.map (·.getD i)) := by
    intro i field hfield
    have hi : i < 2 := (List.getElem?_eq_some_iff.1 hfield).1
    rcases Nat.lt_succ_iff_lt_or_eq.1 hi with hi | rfl
    · obtain rfl : i = 0 := Nat.lt_one_iff.1 hi
      cases hfield
      exact .scalar ..
    · cases hfield
      exact @roomy_of_check _ "article" _ rfl
  exact ⟨_, rfl, hrows, (hagain hnulls).1 hroomy⟩

/-! ## Rows that are taken only once -/

/-- A union whose first variant is a union without variants. -/
def voidFirst : StructType := ⟨[⟨"u", .union [.union [], .primitive .int]⟩], by decide +kernel⟩

/-- Two counts that are told apart. -/
def twoCounts : StructType :=
  ⟨[⟨"u", .union [.primitive .int, .primitive .int]⟩], by decide +kernel⟩

/-- A null of the second variant, and so many nulls. -/
def nullCounts (size : Nat) : List Cells := ⟨[.union 1 .null]⟩ :: List.replicate size ⟨[.null]⟩

theorem check_nullCounts {size : Nat} (hpos : 0 < size) (hsize : size ≤ maxVariantValues) :
    check "u" (.union 1 .null :: List.replicate size .null)
      (.union [.primitive .int, .primitive .int]) = .ok () := by
  have hnull : ∀ v ∈ Stored.union 1 .null :: List.replicate size .null,
      v = .union 1 .null ∨ v = .null :=
    List.forall_mem_cons.2 ⟨.inl rfl, fun v hv => .inr (List.eq_of_mem_replicate hv)⟩
  have hplaces : ∀ i, (valuesOf i (.union 1 .null :: List.replicate size .null)).length ≤
      maxVariantValues := by
    intro i
    rw [length_valuesOf, List.map_cons, List.map_replicate, List.count_cons, List.count_replicate]
    simp only [partOf, beq_iff_eq]
    show (if 0 = i then size else 0) + (if 1 = i then 1 else 0) ≤ maxVariantValues
    split <;> split <;> omega
  have hvariant : ∀ path i,
      check path (valuesOf i (.union 1 .null :: List.replicate size .null)) (.primitive .int) =
        .ok () := by
    intro path i
    refine check_primitive_iff.2 ⟨fun part hpart => ?_, rfl⟩
    obtain ⟨v, hv, hpart⟩ := mem_valuesOf.1 hpart
    obtain rfl | rfl := hnull v hv <;> cases hpart <;> rfl
  refine check_union_iff.2 ⟨⟨fun v hv => ?_, hplaces⟩, ?_, by decide⟩
  · obtain rfl | rfl := hnull v hv <;> rfl
  · exact checkVariantValues_cons_iff.2
      ⟨hvariant _ 0, checkVariantValues_cons_iff.2 ⟨hvariant _ 1, rfl⟩⟩

/-- A null of a later variant comes back as null, like null itself. -/
theorem rowReturns_null {v : Stored} (hv : v = .union 1 .null ∨ v = .null) :
    RowReturns twoCounts ⟨[v]⟩ ⟨[.null]⟩ := by
  refine ⟨rfl, fun i field hfield => ?_⟩
  match i, hfield with
  | 0, rfl =>
    intro array harray
    cases harray
    obtain rfl | rfl := hv <;> rfl

theorem exists_ofRows_nullCounts {size : Nat} (hpos : 0 < size) (hsize : size ≤ maxVariantValues) :
    ∃ b, Batch.ofRows twoCounts (nullCounts size) = .ok b ∧
      b.rows twoCounts = .ok (List.replicate (size + 1) ⟨[.null]⟩) := by
  refine ⟨_, ofRows_eq_ok_iff.2 ⟨_, rfl, ?_, rfl⟩, rows_columnsOf rfl ?_⟩
  · intro i field hfield
    match i, hfield with
    | 0, rfl =>
      rw [nullCounts, List.map_cons, List.map_replicate]
      exact check_nullCounts hpos hsize
  · refine .cons (rowReturns_null (.inl rfl)) (List.forall₂_same.2 fun r hr => ?_)
    obtain rfl := List.eq_of_mem_replicate hr
    exact rowReturns_null (.inr rfl)

theorem ofRows_nulls_ne_ok {size : Nat} (hsize : maxVariantValues < size) (b : Batch) :
    Batch.ofRows twoCounts (List.replicate size ⟨[.null]⟩) ≠ .ok b := by
  intro h
  obtain ⟨_, _, hchecks, _⟩ := ofRows_eq_ok_iff.1 h
  have hplaces := (check_union_iff.1 (hchecks 0 _ rfl)).1.2 0
  rw [length_valuesOf, List.map_replicate, List.map_replicate] at hplaces
  exact Nat.not_le_of_lt hsize (List.count_replicate_self.symm.trans_le hplaces)

/-- What a batch gives back need not be taken again: nulls of later variants are nulls of the first, which
may have no nulls, or no places left for them. -/
theorem exists_rows_refused_again :
    (∃ b, Batch.ofRows voidFirst [⟨[.union 1 .null]⟩] = .ok b ∧
      b.rows voidFirst = .ok [⟨[.null]⟩] ∧
      Batch.ofRows voidFirst [⟨[.null]⟩] = .error (.invalidValue "u<0>" (.union []) "null")) ∧
    twoCounts.validate = .ok () ∧
    ∃ b rows', Batch.ofRows twoCounts (nullCounts maxVariantValues) = .ok b ∧
      b.rows twoCounts = .ok rows' ∧ ∀ b', Batch.ofRows twoCounts rows' ≠ .ok b' := by
  obtain ⟨b, hb, hrows⟩ := exists_ofRows_nullCounts (twoPow_pos 31) (Nat.le_refl maxVariantValues)
  exact ⟨⟨_, rfl, rfl, rfl⟩, rfl, b, _, hb, hrows, ofRows_nulls_ne_ok (Nat.lt_succ_self _)⟩

end Batch

end ColumnScan.Columnar
