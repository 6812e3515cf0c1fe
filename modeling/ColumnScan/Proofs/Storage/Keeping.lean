import ColumnScan.Proofs.Columnar.Returning
import ColumnScan.Proofs.Columnar.Schemas
import ColumnScan.Proofs.Decimal.Digits
import ColumnScan.Storage.File

/-!
# What a file keeps

A file keeps the entries of a valid type as they are, if the values conform to the type: the digits of a
decimal, which alone could be lost, fit the bits that their number calls for. It is opened under the
schema it was written with. Main statements: `keep_encode` and `schemaOf_reopenSlots`.
-/

namespace ColumnScan

open Columnar

namespace FileImage

/-! ## Digits -/

/-- So many digits fit the bits in which they are kept. -/
theorem tenPow_le_digitBits {precision : Nat} (hpos : 0 < precision)
    (hmax : precision ≤ maxPrecision) : tenPow precision ≤ twoPow (digitBits precision - 1) := by
  have hall : ∀ p < maxPrecision + 1, 0 < p → tenPow p ≤ twoPow (digitBits p - 1) := by
    decide +kernel
  exact hall precision (Nat.lt_succ_of_le hmax) hpos

theorem wrap_unscaled {precision scale : UInt8} {d : Decimal}
    (valid : (Kind.decimal precision scale).validate = .ok ()) (h : d.precision ≤ precision.toNat) :
    wrap (digitBits precision.toNat) d.unscaled = d.unscaled := by
  obtain ⟨hpos, hmax, _⟩ := Kind.decimal_of_validate valid
  have hfits := Nat.lt_of_lt_of_le (Decimal.natAbs_unscaled_lt h) (tenPow_le_digitBits hpos hmax)
  have hbits : 0 < digitBits precision.toNat := by
    refine Nat.pos_of_ne_zero fun hzero => ?_
    have hone : tenPow 1 ≤ tenPow precision.toNat := Nat.pow_le_pow_right (by decide) hpos
    have htwo := tenPow_le_digitBits hpos hmax
    rw [hzero] at htwo
    exact absurd (Nat.le_trans hone htwo) (by decide)
  exact wrap_of_inWidth hbits ⟨by omega, by omega⟩

/-! ## Entries -/

theorem keep_encodeScalar {kind : Kind} {v : Stored} (valid : kind.validate = .ok ())
    (h : Conforms (.primitive kind) v) :
    keep (layoutKind kind) (encode (.primitive kind) v) = encode (.primitive kind) v := by
  cases h with
  | null =>
    rw [encode, encodeScalar?_null]
    cases kind <;> rfl
  | scalar admits =>
    cases admits with
    | @decimal precision scale d scaled digits =>
      rw [encode, encodeScalar?, ← scaled, Decimal.rescale_self]
      simp only [Option.map_some, Option.getD_some, layoutKind, keep, wrap_unscaled valid digits]
    | _ => rfl

theorem conforms_childAt {fields : List (Named DataType)} {v : Stored}
    (h : Conforms (.struct fields) v) {i : Nat} {field : Named DataType}
    (hfield : fields[i]? = some field) : Conforms field.type (childAt i v) := by
  cases h with
  | null => exact .null field.type
  | @struct _ children size parts =>
    obtain ⟨hi, _⟩ := List.getElem?_eq_some_iff.1 hfield
    have hchild : children[i]? = some children[i] := List.getElem?_eq_getElem (size ▸ hi)
    rw [childAt, hchild]
    exact parts (field, children[i]) (List.mem_of_getElem? (List.getElem?_zip_eq_some.2 ⟨hfield, hchild⟩))

mutual

/-- A file keeps what stands at the place of a value that conforms to a valid type. -/
theorem keep_encode (type : DataType) (valid : type.validate = .ok ()) {array : PhysicalType}
    (harray : layout type = .ok array) {v : Stored} (h : Conforms type v) :
    keep array (encode type v) = encode type v := by
  cases type with
  | primitive kind =>
    cases harray
    exact keep_encodeScalar valid h
  | struct fields =>
    obtain ⟨slots, hslots, rfl⟩ := layout_struct_eq_ok_iff.1 harray
    have hparts : keepChildren slots (encodeFields 0 fields v) = encodeFields 0 fields v :=
      keepChildren_encodeFields fields valid hslots fun i field hfield => by
        rw [Nat.zero_add]
        exact conforms_childAt h hfield
    rw [encode]
    split
    · rfl
    · rw [keep, hparts]
  | list element =>
    obtain ⟨item, hitem, rfl⟩ := layout_list_eq_ok_iff.1 harray
    have hvalid : element.validate = .ok () := valid
    have hparts : ∀ part ∈ itemsIn v, keep item (encode element part) = encode element part := by
      cases h with
      | null => nofun
      | list parts => exact fun part hpart => keep_encode element hvalid hitem (parts part hpart)
    rw [encode]
    split
    · rfl
    · rw [keep, List.map_map]
      exact congrArg Datum.list (List.map_congr_left hparts)
  | map key value =>
    obtain ⟨k, hk, w, hw, rfl⟩ := layout_map_eq_ok_iff.1 harray
    obtain ⟨hkey, hvalue⟩ := andThen_eq_ok_iff.1 valid
    have hparts : ∀ e ∈ entriesIn v, keep k (encode key e.1) = encode key e.1 ∧
        keep w (encode value e.2) = encode value e.2 := by
      cases h with
      | null => nofun
      | map _ keys values =>
        exact fun e he => ⟨keep_encode key hkey hk (keys e he), keep_encode value hvalue hw (values e he)⟩
    rw [encode]
    split
    · rfl
    · rw [entriesArray, keep, List.map_map]
      refine congrArg Datum.map (List.map_congr_left fun e he => ?_)
      exact Prod.ext (hparts e he).1 (hparts e he).2
  | union variants =>
    obtain ⟨_, slots, _, rfl⟩ := layout_union_eq_ok_iff.1 harray
    rw [encode]
    rfl

theorem keepChildren_encodeFields (fields : List (Named DataType))
    (valid : DataType.validateFields fields = .ok ()) {slots : List PhysicalField}
    (hslots : layoutFields fields = .ok slots) {v : Stored} {index : Nat}
    (h : ∀ i field, fields[i]? = some field → Conforms field.type (childAt (index + i) v)) :
    keepChildren slots (encodeFields index fields v) = encodeFields index fields v := by
  cases fields with
  | nil =>
    cases hslots
    rfl
  | cons first rest =>
    obtain ⟨name, type⟩ := first
    obtain ⟨array, harray, others, hparts, rfl⟩ := layoutFields_cons_eq_ok_iff.1 hslots
    obtain ⟨htype, hrest⟩ := andThen_eq_ok_iff.1 valid
    have hfirst := keep_encode type htype harray (h 0 ⟨name, type⟩ rfl)
    have hothers : keepChildren others (encodeFields (index + 1) rest v) =
        encodeFields (index + 1) rest v :=
      keepChildren_encodeFields rest hrest hparts fun i field hfield => by
        rw [Nat.add_assoc, Nat.add_comm 1]
        exact h (i + 1) field hfield
    rw [encodeFields, keepChildren, hothers]
    exact congrArg (· :: _) hfirst

end

/-! ## Schemas -/

mutual

/-- A column of a valid type is found again under the array it was laid out as. -/
theorem reopen_layout (type : DataType) (valid : type.validate = .ok ()) {array : PhysicalType}
    (harray : layout type = .ok array) : reopen array = array := by
  cases type with
  | primitive kind =>
    cases harray
    cases kind with
    | decimal precision scale =>
      obtain ⟨_, hmax, _⟩ := Kind.decimal_of_validate valid
      exact if_neg (Nat.not_lt_of_le hmax)
    | _ => rfl
  | struct fields =>
    obtain ⟨slots, hslots, rfl⟩ := layout_struct_eq_ok_iff.1 harray
    rw [reopen, reopenSlots_layoutFields fields valid hslots]
  | list element =>
    obtain ⟨item, hitem, rfl⟩ := layout_list_eq_ok_iff.1 harray
    have hvalid : element.validate = .ok () := valid
    rw [reopen, reopen_layout element hvalid hitem]
  | map key value =>
    obtain ⟨k, hk, w, hw, rfl⟩ := layout_map_eq_ok_iff.1 harray
    obtain ⟨hkey, hvalue⟩ := andThen_eq_ok_iff.1 valid
    simp only [entriesArray, reopen, reopenSlots, reopen_layout key hkey hk, reopen_layout value hvalue hw]
  | union variants =>
    obtain ⟨_, slots, _, rfl⟩ := layout_union_eq_ok_iff.1 harray
    rfl

theorem reopenSlots_layoutFields (fields : List (Named DataType))
    (valid : DataType.validateFields fields = .ok ()) {slots : List PhysicalField}
    (hslots : layoutFields fields = .ok slots) : reopenSlots slots = slots := by
  cases fields with
  | nil =>
    cases hslots
    rfl
  | cons first rest =>
    obtain ⟨name, type⟩ := first
    obtain ⟨array, harray, others, hparts, rfl⟩ := layoutFields_cons_eq_ok_iff.1 hslots
    obtain ⟨htype, hrest⟩ := andThen_eq_ok_iff.1 valid
    rw [reopenSlots, reopen_layout type htype harray, reopenSlots_layoutFields rest hrest hparts]

end

end FileImage

namespace DataType

mutual

theorem unionsWithin_of_hasUnion {bound : Nat} (type : DataType) (h : type.hasUnion = false) :
    type.UnionsWithin bound := by
  cases type with
  | primitive kind => exact unionsWithin_primitive kind
  | struct fields => exact unionsWithin_struct.2 (unionsWithin_of_hasUnionFields fields h)
  | list element => exact unionsWithin_list.2 (unionsWithin_of_hasUnion element h)
  | map key value =>
    obtain ⟨hkey, hvalue⟩ := Bool.or_eq_false_iff.1 h
    exact unionsWithin_map.2 ⟨unionsWithin_of_hasUnion key hkey, unionsWithin_of_hasUnion value hvalue⟩
  | union variants => cases h

theorem unionsWithin_of_hasUnionFields {bound : Nat} (fields : List (Named DataType))
    (h : hasUnionFields fields = false) : ∀ field ∈ fields, field.type.UnionsWithin bound := by
  cases fields with
  | nil => nofun
  | cons first rest =>
    obtain ⟨_, type⟩ := first
    obtain ⟨htype, hrest⟩ := Bool.or_eq_false_iff.1 h
    exact List.forall_mem_cons.2
      ⟨unionsWithin_of_hasUnion type htype, unionsWithin_of_hasUnionFields rest hrest⟩

end

end DataType

/-- A file with valid columns and no union is opened under the schema it was written with. -/
theorem FileImage.schemaOf_reopenSlots {schema : StructType} (valid : schema.validate = .ok ())
    (named : schema.type.WellNamed) (unionFree : ∀ field ∈ schema.fields, field.type.hasUnion = false)
    {slots : List PhysicalField} (h : layoutSchema schema = .ok slots) :
    schemaOf (reopenSlots slots) = .ok schema := by
  have hself : DataType.relaidFields schema.fields = schema.fields :=
    (DataType.relaidFields_eq_self_iff schema.fields).2 fun field hfield =>
      DataType.unionsWithin_of_hasUnion field.type (unionFree field hfield)
  rw [reopenSlots_layoutFields schema.fields valid h, schemaOf_layoutSchema valid named h]
  exact congrArg Except.ok (StructType.ext hself)

end ColumnScan
