import ColumnScan.Proofs.Columnar.Places
import ColumnScan.Proofs.Outcome
import ColumnScan.Proofs.Value.Conforms

/-!
# What comes back from a place

The entry of a value is read as a value of the type again, part by part, so what comes back of a
composite value is made of what comes back of its parts. Main statements: `exists_decodeScalar` and one
lemma `Returns` for each form of composite value.
-/

namespace ColumnScan.Columnar

/-- What is read from the place of the value `v` in a column of the type is the value `w`. -/
def Returns (type : DataType) (v w : Stored) : Prop :=
  ∀ array, layout type = .ok array → decode type array (encode type v) = .ok w

theorem decode_null (type : DataType) (array : PhysicalType) : decode type array .null = .ok .null := by
  cases type <;> rfl

/-! ## Scalars -/

theorem encodeScalar?_null (kind : Kind) : encodeScalar? kind .null = none := by
  cases kind <;> rfl

/-- Only scalars have entries of their own. -/
theorem isHollow_of_encodeScalar? {kind : Kind} {v : Stored} {d : Datum}
    (h : encodeScalar? kind v = some d) : isHollow v = false ∧ d.isNull = false := by
  fun_cases encodeScalar? kind v with
  | case14 precision scale x =>
    obtain ⟨e, _, rfl⟩ := Option.map_eq_some_iff.1 h
    exact ⟨rfl, rfl⟩
  | case15 => simp_all [encodeScalar?]
  | _ =>
    cases h
    exact ⟨rfl, rfl⟩

theorem returns_of_decodeScalar {kind : Kind} {v w : Stored} {d : Datum}
    (hd : encodeScalar? kind v = some d) (hw : decodeScalar kind (layoutKind kind) d = .ok w) :
    Returns (.primitive kind) v w := by
  intro array harray
  cases harray
  rw [encode, hd, Option.getD_some, decode, (isHollow_of_encodeScalar? hd).2]
  exact hw

/-- What the entry of a scalar is read as is read again from its own entry, and it is the scalar itself
if the scalar has the form that the kind stores. -/
def Comes (kind : Kind) (v w : Stored) (d : Datum) : Prop :=
  decodeScalar kind (layoutKind kind) d = .ok w ∧
    (∃ e, encodeScalar? kind w = some e ∧ decodeScalar kind (layoutKind kind) e = .ok w) ∧
      (kind.Admits v → v = w)

/-- Text that was cut is not cut again. -/
theorem cut_value_cut (s : String) (limit : UInt32) :
    BoundedText.cut (BoundedText.cut s limit).value limit = BoundedText.cut s limit := by
  have hvalue := BoundedText.cut_value_of_le (BoundedText.cut s limit).length_le
  exact BoundedText.mk.injEq .. ▸ ⟨hvalue, rfl⟩

theorem cut_eq_self {s : BoundedText} {limit : UInt32} (h : s.limit = limit) :
    BoundedText.cut s.value limit = s := by
  obtain ⟨text, _, hlength⟩ := s
  cases h
  exact BoundedText.mk.injEq .. ▸ ⟨BoundedText.cut_value_of_le hlength, rfl⟩

theorem decodeDecimal_unscaled (array : PhysicalType) (kind : Kind) {d : Decimal} {scale : UInt8}
    (h : d.scale = scale.toNat) :
    decodeDecimal array kind d.unscaled scale = .ok (.scalar (.decimal d)) := by
  obtain ⟨unscaled, places, hfits, hscale⟩ := d
  obtain rfl : places = scale.toNat := h
  rw [decodeDecimal, dif_pos hfits, Decimal.make, dif_pos hscale]

theorem exists_decodeScalar {kind : Kind} {v : Stored} {d : Datum}
    (h : encodeScalar? kind v = some d) : ∃ w, Comes kind v w d := by
  have same (hv : decodeScalar kind (layoutKind kind) d = .ok v) : ∃ w, Comes kind v w d :=
    ⟨v, hv, ⟨d, h, hv⟩, fun _ => rfl⟩
  fun_cases encodeScalar? kind v with
  | case2 limit s =>
    cases h
    refine ⟨.char (.cut s.value limit), rfl, ⟨_, rfl, ?_⟩, fun hadmits => ?_⟩
    · exact congrArg (fun s => Except.ok (Stored.char s)) (cut_value_cut s.value limit)
    · cases hadmits with
      | char bound => rw [cut_eq_self bound]
  | case3 limit s =>
    cases h
    refine ⟨.varchar (.cut s.value limit), rfl, ⟨_, rfl, ?_⟩, fun hadmits => ?_⟩
    · exact congrArg (fun s => Except.ok (Stored.varchar s)) (cut_value_cut s.value limit)
    · cases hadmits with
      | varchar bound => rw [cut_eq_self bound]
  | case14 precision scale x =>
    obtain ⟨e, he, rfl⟩ := Option.map_eq_some_iff.1 h
    have hscale := Decimal.rescale_scale he
    have hself : e.rescale scale.toNat = some e := by rw [← hscale, Decimal.rescale_self]
    have hread : decodeScalar (.decimal precision scale) (layoutKind (.decimal precision scale))
        (.integer e.unscaled) = .ok (.scalar (.decimal e)) := decodeDecimal_unscaled _ _ hscale
    refine ⟨.scalar (.decimal e), hread, ⟨_, congrArg (Option.map _) hself, hread⟩, fun hadmits => ?_⟩
    cases hadmits with
    | decimal scaled =>
      rw [← scaled, Decimal.rescale_self] at he
      cases he
      rfl
  | case15 => simp_all [encodeScalar?]
  | _ =>
    cases h
    apply same
    simp only [decodeScalar, layoutKind, Int8.ofInt_toInt, Int16.ofInt_toInt, Int32.ofInt_toInt,
      Int64.ofInt_toInt]

/-! ## Arrays of parts -/

theorem layout_of_layoutFields {fields : List (Named DataType)} {slots : List PhysicalField}
    (h : layoutFields fields = .ok slots) :
    List.Forall₂ (fun field slot => layout field.type = .ok slot.type) fields slots := by
  induction fields generalizing slots with
  | nil =>
    cases h
    exact .nil
  | cons field fields ih =>
    rw [layoutFields] at h
    obtain ⟨first, hfirst, h⟩ := bind_eq_ok_iff.1 h
    obtain ⟨rest, hrest, h⟩ := bind_eq_ok_iff.1 h
    cases h
    exact .cons hfirst (ih hrest)

theorem layout_of_layoutVariants {index : Nat} {variants : List DataType} {slots : List PhysicalField}
    (h : layoutVariants index variants = .ok slots) :
    List.Forall₂ (fun variant slot => layout variant = .ok slot.type) variants slots := by
  induction variants generalizing index slots with
  | nil =>
    cases h
    exact .nil
  | cons variant variants ih =>
    rw [layoutVariants] at h
    obtain ⟨first, hfirst, h⟩ := bind_eq_ok_iff.1 h
    obtain ⟨rest, hrest, h⟩ := bind_eq_ok_iff.1 h
    cases h
    exact .cons hfirst (ih hrest)

/-- The number of a variant tells its array among all of them. -/
theorem variantArray?_numbered {slots : List PhysicalField} (room : slots.length < maxArrayVariants)
    {id : Nat} {slot : PhysicalField} (h : slots[id]? = some slot) :
    variantArray? (numbered slots) id = some slot.type := by
  have hnumber : ∀ i, i < slots.length → (Int8.ofNat i).toInt = i := by
    intro i hi
    rw [Int8.toInt_ofNat_of_lt (Nat.lt_trans hi room)]
  obtain ⟨hid, hslot⟩ := List.getElem?_eq_some_iff.1 h
  have hfind : (numbered slots).find? (fun v => v.1.toInt == (id : Int)) =
      some (Int8.ofNat id, slot) := by
    rw [numbered, if_pos room]
    refine List.find?_eq_some_iff_getElem.2 ⟨beq_iff_eq.2 (hnumber id hid), id, ?_, ?_, ?_⟩
    · rwa [List.length_map, List.length_zipIdx]
    · rw [List.getElem_map, List.getElem_zipIdx, hslot, Nat.zero_add]
    · intro i hi
      rw [List.getElem_map, List.getElem_zipIdx, Nat.zero_add, Bool.not_eq_true', beq_eq_false_iff_ne,
        hnumber i (Nat.lt_trans hi hid)]
      exact Int.ofNat_inj.not.2 (Nat.ne_of_lt hi)
  rw [variantArray?, hfind]
  rfl

theorem decodeVariant_eq {id index : Nat} {variants : List DataType} {variant : DataType}
    (h : variants[index]? = some variant) (array : PhysicalType) (entry : Datum) :
    decodeVariant id variants index array entry = decode variant array entry := by
  induction variants generalizing index with
  | nil => cases h
  | cons first rest ih =>
    cases index with
    | zero =>
      cases h
      rfl
    | succ index => exact ih h

theorem encodeVariant_eq {index : Nat} {variants : List DataType} {variant : DataType}
    (h : variants[index]? = some variant) (v : Stored) :
    encodeVariant variants index v = encode variant v := by
  induction variants generalizing index with
  | nil => cases h
  | cons first rest ih =>
    cases index with
    | zero =>
      cases h
      rfl
    | succ index => exact ih h

/-! ## Composite values -/

theorem returns_null {type : DataType} (h : encode type .null = .null) : Returns type .null .null := by
  intro array _
  rw [h]
  exact decode_null type array

theorem decodeFields_encodeFields {fields : List (Named DataType)} {slots : List PhysicalField}
    (hslots : List.Forall₂ (fun field slot => layout field.type = .ok slot.type) fields slots)
    {index : Nat} {v : Stored} {ws : List Stored} (size : ws.length = fields.length)
    (h : ∀ i field w, fields[i]? = some field → ws[i]? = some w →
      Returns field.type (childAt (index + i) v) w) :
    decodeFields fields slots (encodeFields index fields v) = .ok ws := by
  induction hslots generalizing index ws with
  | nil =>
    obtain rfl := List.length_eq_zero_iff.1 size
    rfl
  | @cons field slot fields slots hslot _ ih =>
    cases ws with
    | nil => cases size
    | cons w ws =>
      have hfirst : decode field.type slot.type (encode field.type (childAt index v)) = .ok w :=
        h 0 field w rfl rfl _ hslot
      have hrest : decodeFields fields slots (encodeFields (index + 1) fields v) = .ok ws := by
        refine ih (Nat.succ.inj size) fun i field w hfield hw => ?_
        rw [Nat.add_assoc, Nat.add_comm 1]
        exact h (i + 1) field w hfield hw
      rw [encodeFields, decodeFields, hfirst, hrest]
      rfl

theorem Returns.struct {fields : List (Named DataType)} {v : Stored} {ws : List Stored}
    (notNull : v.isNull = false) (size : ws.length = fields.length)
    (parts : ∀ i field w, fields[i]? = some field → ws[i]? = some w →
      Returns field.type (childAt i v) w) : Returns (.struct fields) v (.struct ws) := by
  intro array harray
  rw [layout] at harray
  obtain ⟨slots, hslots, harray⟩ := bind_eq_ok_iff.1 harray
  cases harray
  have hparts : decodeFields fields slots (encodeFields 0 fields v) = .ok ws := by
    refine decodeFields_encodeFields (layout_of_layoutFields hslots) size fun i field w hfield hw => ?_
    rw [Nat.zero_add]
    exact parts i field w hfield hw
  rw [encode, notNull]
  simp only [Bool.false_eq_true, if_false, decode, Datum.isNull, hparts, Except.map]

theorem Returns.list {element : DataType} {items ws : List Stored}
    (parts : List.Forall₂ (Returns element) items ws) :
    Returns (.list element) (.list items) (.list ws) := by
  intro array harray
  rw [layout] at harray
  obtain ⟨item, hitem, harray⟩ := bind_eq_ok_iff.1 harray
  cases harray
  have hparts : (items.map (encode element)).mapM (fun d => decode element item d) = .ok ws := by
    rw [mapM_eq_ok_iff, List.forall₂_map_left_iff]
    exact parts.imp fun v w h => h item hitem
  simp only [encode, itemsIn, Stored.isNull, Bool.false_eq_true, if_false, decode, Datum.isNull, hparts,
    Except.map]

theorem Returns.map {key value : DataType} {entries ps : List (Stored × Stored)}
    (parts : List.Forall₂ (fun e p => Returns key e.1 p.1 ∧ Returns value e.2 p.2) entries ps) :
    Returns (.map key value) (.map entries) (Stored.ofPairs ps) := by
  intro array harray
  rw [layout] at harray
  obtain ⟨k, hk, harray⟩ := bind_eq_ok_iff.1 harray
  obtain ⟨v, hv, harray⟩ := bind_eq_ok_iff.1 harray
  cases harray
  have hparts : (entries.map fun e => (encode key e.1, encode value e.2)).mapM
      (fun e : Datum × Datum => do
        let first ← decode key k e.1
        let second ← decode value v e.2
        return (first, second)) = .ok ps := by
    rw [mapM_eq_ok_iff, List.forall₂_map_left_iff]
    refine parts.imp fun e p hparts => ?_
    rw [hparts.1 k hk, hparts.2 v hv]
    rfl
  simp only [encode, entriesIn, Stored.isNull, Bool.false_eq_true, if_false, decode, Datum.isNull,
    hparts, Except.map]

/-- Null is a null of the first variant here, like any other value of a variant. -/
theorem Returns.union {variants : List DataType} (room : variants.length ≠ maxArrayVariants)
    {v w : Stored} {variant : DataType} (hvariant : variants[(partOf v).1]? = some variant)
    (part : Returns variant (partOf v).2 w) :
    Returns (.union variants) v (unionOf (partOf v).1 w) := by
  intro array harray
  rw [layout] at harray
  split at harray
  · cases harray
  next hle =>
    obtain ⟨slots, hslots, harray⟩ := bind_eq_ok_iff.1 harray
    cases harray
    have hparts := layout_of_layoutVariants hslots
    have hroom : slots.length < maxArrayVariants := by
      rw [← hparts.length_eq]
      omega
    obtain ⟨slot, hslot, hmem⟩ := exists_getElem?_zip hparts.length_eq.symm hvariant
    have hlayout : layout variant = .ok slot.type :=
      List.forall₂_zip hparts.flip hmem
    rw [encode, decode]
    simp only [Datum.isNull, Bool.false_eq_true, if_false, variantArray?_numbered hroom hslot,
      decodeVariant_eq hvariant, encodeVariant_eq hvariant, part slot.type hlayout, Except.map]

end ColumnScan.Columnar
