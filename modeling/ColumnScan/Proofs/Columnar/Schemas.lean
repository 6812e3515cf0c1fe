import ColumnScan.Proofs.Columnar.Layouts
import ColumnScan.Proofs.Convert.Stock
import ColumnScan.Proofs.Schema.Lookup

/-!
# Schemas as arrays and back

A schema can be laid out exactly when no union in it has more variants than an array can tell apart,
and it is read back with every name, parameter, bound and order as it was. Only a union of exactly as
many variants as can be told apart comes back without any: `DataType.relaid` says what a type is read
back as. Main statements: `dataType_layout` for types and `layoutSchema_schemaOf` for schemas.
-/

namespace ColumnScan

namespace DataType

/-- Checks the names of a struct; other types have none. -/
def checkNames : DataType → Except SchemaError Unit
  | .struct fields => StructType.checkNames [] fields
  | _ => .ok ()

/-- The names of every struct in the type can be names of a struct. -/
def WellNamed (type : DataType) : Prop := type.Throughout fun part => part.checkNames = .ok ()

/-- The number of variants of a union; other types have none. -/
def variantCount : DataType → Nat
  | .union variants => variants.length
  | _ => 0

/-- No union in the type has more variants. -/
def UnionsWithin (bound : Nat) (type : DataType) : Prop :=
  type.Throughout fun part => part.variantCount ≤ bound

instance (type : DataType) : Decidable type.WellNamed :=
  inferInstanceAs (Decidable (∀ part ∈ type.nodes, part.checkNames = .ok ()))

instance (bound : Nat) (type : DataType) : Decidable (type.UnionsWithin bound) :=
  inferInstanceAs (Decidable (∀ part ∈ type.nodes, part.variantCount ≤ bound))

section

variable {bound : Nat}

theorem unionsWithin_primitive (kind : Kind) : UnionsWithin bound (.primitive kind) :=
  throughout_primitive.2 (Nat.zero_le _)

theorem unionsWithin_struct {fields : List (Named DataType)} :
    UnionsWithin bound (.struct fields) ↔ ∀ field ∈ fields, field.type.UnionsWithin bound :=
  throughout_struct.trans (and_iff_right (Nat.zero_le _))

theorem unionsWithin_list {element : DataType} :
    UnionsWithin bound (.list element) ↔ element.UnionsWithin bound :=
  throughout_list.trans (and_iff_right (Nat.zero_le _))

theorem unionsWithin_map {key value : DataType} :
    UnionsWithin bound (.map key value) ↔ key.UnionsWithin bound ∧ value.UnionsWithin bound :=
  throughout_map.trans (and_iff_right (Nat.zero_le _))

theorem unionsWithin_union {variants : List DataType} :
    UnionsWithin bound (.union variants) ↔
      variants.length ≤ bound ∧ ∀ type ∈ variants, type.UnionsWithin bound :=
  throughout_union

end

mutual

/-- What the arrays of a type are read as: a union of the most variants that an array tells apart
has none left. -/
def relaid : DataType → DataType
  | .primitive kind => .primitive kind
  | .struct fields => .struct (relaidFields fields)
  | .list element => .list element.relaid
  | .map key value => .map key.relaid value.relaid
  | .union variants =>
    .union (if variants.length < maxArrayVariants then relaidVariants variants else [])

/-- What the arrays of fields are read as. -/
def relaidFields : List (Named DataType) → List (Named DataType)
  | [] => []
  | ⟨name, type⟩ :: rest => ⟨name, type.relaid⟩ :: relaidFields rest

/-- What the arrays of variants are read as. -/
def relaidVariants : List DataType → List DataType
  | [] => []
  | type :: rest => type.relaid :: relaidVariants rest

end

theorem relaidFields_eq_map (fields : List (Named DataType)) :
    relaidFields fields = fields.map fun field => ⟨field.name, field.type.relaid⟩ := by
  induction fields with
  | nil => rfl
  | cons field rest ih => rw [relaidFields, List.map_cons, ih]

mutual

/-- A type is read back as it is exactly when all its unions have fewer variants. -/
theorem relaid_eq_self_iff : (type : DataType) →
    (type.relaid = type ↔ type.UnionsWithin (maxArrayVariants - 1))
  | .primitive kind => iff_of_true rfl (unionsWithin_primitive kind)
  | .struct fields => by
    rw [relaid, unionsWithin_struct, struct.injEq, relaidFields_eq_self_iff fields]
  | .list element => by
    rw [relaid, unionsWithin_list, list.injEq, relaid_eq_self_iff element]
  | .map key value => by
    rw [relaid, unionsWithin_map, map.injEq, relaid_eq_self_iff key, relaid_eq_self_iff value]
  | .union variants => by
    rw [relaid, unionsWithin_union, union.injEq]
    by_cases hcount : variants.length < maxArrayVariants
    · rw [if_pos hcount, and_iff_right (Nat.le_sub_one_of_lt hcount),
        relaidVariants_eq_self_iff variants]
    · rw [if_neg hcount]
      refine iff_of_false ?_ fun h => hcount (Nat.lt_of_le_sub_one (by decide) h.1)
      rintro rfl
      exact hcount (by decide)

theorem relaidFields_eq_self_iff : (fields : List (Named DataType)) →
    (relaidFields fields = fields ↔
      ∀ field ∈ fields, field.type.UnionsWithin (maxArrayVariants - 1))
  | [] => iff_of_true rfl nofun
  | ⟨name, type⟩ :: rest => by
    rw [relaidFields, List.cons.injEq, Named.mk.injEq, relaid_eq_self_iff type,
      relaidFields_eq_self_iff rest, List.forall_mem_cons]
    exact and_congr_left fun _ => and_iff_right rfl

theorem relaidVariants_eq_self_iff : (variants : List DataType) →
    (relaidVariants variants = variants ↔
      ∀ type ∈ variants, type.UnionsWithin (maxArrayVariants - 1))
  | [] => iff_of_true rfl nofun
  | type :: rest => by
    rw [relaidVariants, List.cons.injEq, relaid_eq_self_iff type, relaidVariants_eq_self_iff rest,
      List.forall_mem_cons]

end

end DataType

namespace Columnar

open DataType

/-! ## Which types can be laid out -/

mutual

/-- A type has arrays exactly when none of its unions has too many variants. -/
theorem exists_layout_iff : (type : DataType) →
    ((∃ array, layout type = .ok array) ↔ type.UnionsWithin maxArrayVariants)
  | .primitive kind => iff_of_true ⟨_, rfl⟩ (unionsWithin_primitive kind)
  | .struct fields => by
    simp only [layout_struct_eq_ok_iff]
    rw [unionsWithin_struct, ← exists_layoutFields_iff fields]
    exact ⟨fun ⟨_, slots, h, _⟩ => ⟨slots, h⟩, fun ⟨slots, h⟩ => ⟨_, slots, h, rfl⟩⟩
  | .list element => by
    simp only [layout_list_eq_ok_iff]
    rw [unionsWithin_list, ← exists_layout_iff element]
    exact ⟨fun ⟨_, item, h, _⟩ => ⟨item, h⟩, fun ⟨item, h⟩ => ⟨_, item, h, rfl⟩⟩
  | .map key value => by
    simp only [layout_map_eq_ok_iff]
    rw [unionsWithin_map, ← exists_layout_iff key, ← exists_layout_iff value]
    exact ⟨fun ⟨_, k, hk, v, hv, _⟩ => ⟨⟨k, hk⟩, ⟨v, hv⟩⟩,
      fun ⟨⟨k, hk⟩, ⟨v, hv⟩⟩ => ⟨_, k, hk, v, hv, rfl⟩⟩
  | .union variants => by
    simp only [layout_union_eq_ok_iff]
    rw [unionsWithin_union, ← exists_layoutVariants_iff 0]
    exact ⟨fun ⟨_, hcount, slots, h, _⟩ => ⟨hcount, slots, h⟩,
      fun ⟨hcount, slots, h⟩ => ⟨_, hcount, slots, h, rfl⟩⟩

theorem exists_layoutFields_iff : (fields : List (Named DataType)) →
    ((∃ slots, layoutFields fields = .ok slots) ↔
      ∀ field ∈ fields, field.type.UnionsWithin maxArrayVariants)
  | [] => iff_of_true ⟨_, rfl⟩ nofun
  | ⟨_, type⟩ :: rest => by
    simp only [layoutFields_cons_eq_ok_iff]
    rw [List.forall_mem_cons, ← exists_layout_iff type, ← exists_layoutFields_iff rest]
    exact ⟨fun ⟨_, first, hfirst, slots, hrest, _⟩ => ⟨⟨first, hfirst⟩, ⟨slots, hrest⟩⟩,
      fun ⟨⟨first, hfirst⟩, ⟨slots, hrest⟩⟩ => ⟨_, first, hfirst, slots, hrest, rfl⟩⟩

theorem exists_layoutVariants_iff (index : Nat) : (variants : List DataType) →
    ((∃ slots, layoutVariants index variants = .ok slots) ↔
      ∀ type ∈ variants, type.UnionsWithin maxArrayVariants)
  | [] => iff_of_true ⟨_, rfl⟩ nofun
  | type :: rest => by
    simp only [layoutVariants_cons_eq_ok_iff]
    rw [List.forall_mem_cons, ← exists_layout_iff type,
      ← exists_layoutVariants_iff (index + 1) rest]
    exact ⟨fun ⟨_, first, hfirst, slots, hrest, _⟩ => ⟨⟨first, hfirst⟩, ⟨slots, hrest⟩⟩,
      fun ⟨⟨first, hfirst⟩, ⟨slots, hrest⟩⟩ => ⟨_, first, hfirst, slots, hrest, rfl⟩⟩

end

/-! ## What the arrays are read as -/

/-- A written bound is read as the bound. -/
theorem readLimit?_toString (limit : UInt32) : readLimit? (toString limit.toNat) = some limit := by
  have hlist : (toString limit.toNat).toList = Nat.toDigits 10 limit.toNat := Nat.toList_repr
  have hdigits : ∀ c ∈ Nat.toDigits 10 limit.toNat, c.isDigit = true :=
    fun c => Nat.isDigit_of_mem_toDigits (by decide) (by decide)
  have hnat : natOfDigits? (Nat.toDigits 10 limit.toNat) = some limit.toNat := by
    rw [natOfDigits?, if_neg, Nat.ofDigitChars_toDigits (by decide) (by decide)]
    simpa [Nat.toDigits_ne_nil] using hdigits
  have hsign : ∀ rest, Nat.toDigits 10 limit.toNat ≠ '+' :: rest := by
    intro rest h
    exact absurd (hdigits '+' (h ▸ List.mem_cons_self)) (by decide)
  have hlt : limit.toNat < twoPow 32 := by
    rw [show twoPow 32 = 2 ^ 32 by decide]
    exact limit.toNat_lt
  unfold readLimit?
  rw [hlist]
  split
  · next rest h => exact absurd h (hsign rest)
  · simp [hnat, hlt]

theorem textKind_textNotes (name kind : String) (limit : UInt32) :
    textKind name (textNotes kind limit) =
      if kind = "char" then .ok (.char limit)
      else if kind = "varchar" then .ok (.varchar limit)
      else .error (.unsupported (.textKind name kind)) := by
  have hkind : note? (textNotes kind limit) textKindNote = some kind := rfl
  have hlength : note? (textNotes kind limit) textLengthNote = some (toString limit.toNat) := by
    simp [note?, textNotes, textKindNote, textLengthNote]
  have hlimit : (note? (textNotes kind limit) textLengthNote >>= readLimit?) = some limit := by
    rw [hlength, Option.bind_eq_bind, Option.bind_some, readLimit?_toString]
  rw [textKind, hkind]
  simp only [hlimit]

/-- A scalar kind is found again. -/
theorem dataType_layoutKind {kind : Kind} (valid : kind.validate = .ok ()) (name : String) :
    dataType name (notes (.primitive kind)) (layoutKind kind) = .ok (.primitive kind) := by
  cases kind with
  | char limit =>
    rw [notes, layoutKind, dataType, textKind_textNotes, if_pos rfl]
    rfl
  | varchar limit =>
    rw [notes, layoutKind, dataType, textKind_textNotes, if_neg (by decide), if_pos rfl]
    rfl
  | decimal precision scale =>
    -- No valid scale is so large that its eight bits are read as negative.
    have hsign : ¬scale.toInt8 < 0 := by
      rw [Int8.lt_iff_toInt_lt, Kind.toInt_scale_of_validate valid]
      exact Int.not_lt.2 (Int.natCast_nonneg _)
    rw [layoutKind, dataType, if_neg hsign, UInt8.toUInt8_toInt8]
  | _ => rfl

/-- Names are what makes fields those of a struct, and they are laid out as they are. -/
theorem properNames_relaidFields {fields : List Field} (named : StructType.ProperNames fields) :
    StructType.ProperNames (relaidFields fields) := by
  refine named.of_names ?_
  rw [relaidFields_eq_map, List.map_map]
  rfl

/-- Of the most variants that can be told apart none is numbered. -/
theorem layout_union_of_length_eq {variants : List DataType}
    (size : variants.length = maxArrayVariants)
    (parts : ∀ type ∈ variants, type.UnionsWithin maxArrayVariants) :
    layout (.union variants) = .ok (.union .dense []) := by
  obtain ⟨array, h⟩ := (exists_layout_iff _).2 (unionsWithin_union.2 ⟨Nat.le_of_eq size, parts⟩)
  obtain ⟨_, slots, hslots, rfl⟩ := layout_union_eq_ok_iff.1 h
  have hsize : ¬slots.length < maxArrayVariants := by
    rw [length_layoutVariants hslots, size]
    exact Nat.lt_irrefl _
  rw [h, numbered, if_neg hsize]

mutual

/-- The array of a valid type is read as the type, but for unions of the most variants. -/
theorem dataType_layout : {type : DataType} → type.validate = .ok () → type.WellNamed →
    {array : PhysicalType} → layout type = .ok array → (name : String) →
    dataType name (notes type) array = .ok type.relaid
  | .primitive kind, valid, _, _, h, name => by
    cases h
    exact dataType_layoutKind valid name
  | .struct fields, valid, named, _, h, name => by
    obtain ⟨slots, hslots, rfl⟩ := layout_struct_eq_ok_iff.1 h
    obtain ⟨hnames, hparts⟩ := throughout_struct.1 named
    rw [dataType, dataTypeFields_layoutFields valid hparts hslots]
    show structOf (relaidFields fields) = .ok (.struct (relaidFields fields))
    have hproper := properNames_relaidFields (StructType.checkNames_nil_eq_ok_iff.1 hnames)
    rw [structOf, StructType.ofFields_of_proper hproper]
    rfl
  | .list element, valid, named, _, h, name => by
    obtain ⟨item, hitem, rfl⟩ := layout_list_eq_ok_iff.1 h
    have hpart : element.validate = .ok () := valid
    rw [dataType, dataType_layout hpart (throughout_list.1 named).2 hitem]
    rfl
  | .map key value, valid, named, _, h, name => by
    obtain ⟨k, hk, v, hv, rfl⟩ := layout_map_eq_ok_iff.1 h
    obtain ⟨hkey, hvalue⟩ := andThen_eq_ok_iff.1 valid
    obtain ⟨_, hkeys, hvalues⟩ := throughout_map.1 named
    rw [entriesArray, dataType, dataType_layout hkey hkeys hk, dataType_layout hvalue hvalues hv]
    rfl
  | .union variants, valid, named, _, h, name => by
    obtain ⟨_, hvalid⟩ := andThen_eq_ok_iff.1 valid
    obtain ⟨_, hparts⟩ := throughout_union.1 named
    obtain ⟨_, slots, hslots, rfl⟩ := layout_union_eq_ok_iff.1 h
    rw [dataType, numbered, length_layoutVariants hslots, relaid]
    by_cases hcount : variants.length < maxArrayVariants
    · have hends : 0 + variants.length ≤ maxArrayVariants := by omega
      rw [if_pos hcount, if_pos hcount,
        dataTypeVariants_layoutVariants hvalid hparts hslots hends]
      rfl
    · rw [if_neg hcount, if_neg hcount]
      rfl

theorem dataTypeFields_layoutFields : {fields : List (Named DataType)} →
    validateFields fields = .ok () → (∀ field ∈ fields, field.type.WellNamed) →
    {slots : List PhysicalField} → layoutFields fields = .ok slots →
    dataTypeFields slots = .ok (relaidFields fields)
  | [], _, _, _, h => by
    cases h
    rfl
  | ⟨name, type⟩ :: rest, valid, named, _, h => by
    obtain ⟨array, harray, slots, hslots, rfl⟩ := layoutFields_cons_eq_ok_iff.1 h
    obtain ⟨htype, hrest⟩ := andThen_eq_ok_iff.1 valid
    obtain ⟨hnamed, hothers⟩ := List.forall_mem_cons.1 named
    rw [dataTypeFields, dataType_layout htype hnamed harray,
      dataTypeFields_layoutFields hrest hothers hslots]
    rfl

/-- Variants are numbered by their positions, which eight signed bits tell as long as there are no
more of them than can be told apart. -/
theorem dataTypeVariants_layoutVariants : {variants : List DataType} →
    validateVariants variants = .ok () → (∀ type ∈ variants, type.WellNamed) →
    {index : Nat} → {slots : List PhysicalField} → layoutVariants index variants = .ok slots →
    index + variants.length ≤ maxArrayVariants → {refusal : StorageError} →
    dataTypeVariants refusal index ((slots.zipIdx index).map fun (slot, i) => (Int8.ofNat i, slot)) =
      .ok (relaidVariants variants)
  | [], _, _, _, _, h, _, _ => by
    cases h
    rfl
  | type :: rest, valid, named, index, _, h, hends, _ => by
    obtain ⟨array, harray, slots, hslots, rfl⟩ := layoutVariants_cons_eq_ok_iff.1 h
    obtain ⟨htype, hrest⟩ := andThen_eq_ok_iff.1 valid
    obtain ⟨hnamed, hothers⟩ := List.forall_mem_cons.1 named
    rw [List.length_cons] at hends
    have hnumber : (Int8.ofNat index).toInt = index :=
      Int8.toInt_ofNat_of_lt (Nat.lt_of_lt_of_le (by omega) hends)
    rw [List.zipIdx_cons, List.map_cons, dataTypeVariants, if_neg (not_not.2 hnumber),
      dataType_layout htype hnamed harray,
      dataTypeVariants_layoutVariants hrest hothers hslots (by omega)]
    rfl

end

/-! ## Schemas -/

/-- The schema that a schema is read back as. -/
def relaidSchema (schema : StructType) : StructType :=
  ⟨relaidFields schema.fields, properNames_relaidFields schema.proper⟩

/-- The arrays of a valid schema are read as the schema, but for unions of the most variants. -/
theorem schemaOf_layoutSchema {schema : StructType} (valid : schema.validate = .ok ())
    (named : schema.type.WellNamed) {slots : List PhysicalField}
    (h : layoutSchema schema = .ok slots) : schemaOf slots = .ok (relaidSchema schema) := by
  rw [schemaOf, dataTypeFields_layoutFields valid (throughout_struct.1 named).2 h]
  exact mapError_eq_ok_iff.2 (StructType.ofFields_of_proper (relaidSchema schema).proper)

/-- A valid schema can be laid out exactly when none of its unions has too many variants, and then it
is read back as it was exactly when all of them have fewer than the most there may be. -/
theorem layoutSchema_schemaOf {schema : StructType} (valid : schema.validate = .ok ())
    (named : schema.type.WellNamed) :
    ((∃ slots, layoutSchema schema = .ok slots) ↔ schema.type.UnionsWithin maxArrayVariants) ∧
      ∀ slots, layoutSchema schema = .ok slots →
        ∃ back, schemaOf slots = .ok back ∧ back.type = schema.type.relaid ∧
          (back = schema ↔ schema.type.UnionsWithin (maxArrayVariants - 1)) := by
  refine ⟨?_, fun slots hslots =>
    ⟨relaidSchema schema, schemaOf_layoutSchema valid named hslots, rfl, ?_⟩⟩
  · rw [layoutSchema, exists_layoutFields_iff, StructType.type, unionsWithin_struct]
  · rw [← relaid_eq_self_iff, StructType.type, relaid, struct.injEq, StructType.ext_iff]
    rfl

theorem layoutSchema_schemaOf_fullUnion :
    let schema : StructType := ⟨[⟨"code", .list (.primitive (.char 3))⟩,
      ⟨"any", .union (List.replicate maxArrayVariants (.primitive (.decimal 9 2)))⟩], by decide +kernel⟩
    schema.validate = .ok () ∧ schema.type.WellNamed ∧
      ∃ slots back, layoutSchema schema = .ok slots ∧ schemaOf slots = .ok back ∧
        back.type = schema.type.relaid ∧ back ≠ schema := by
  intro schema
  have valid : schema.validate = .ok () := by decide +kernel
  have named : schema.type.WellNamed := by decide +kernel
  obtain ⟨hlayout, hback⟩ := layoutSchema_schemaOf valid named
  obtain ⟨slots, hslots⟩ := hlayout.2 (by decide +kernel)
  obtain ⟨back, hread, htype, hsame⟩ := hback slots hslots
  refine ⟨valid, named, slots, back, hslots, hread, htype, ?_⟩
  exact hsame.not.2 (by decide +kernel)

/-- A valid schema without a union of more variants than can be told apart, which is read back as
another one. -/
theorem exists_schemaOf_ne : ∃ schema slots back, schema.validate = .ok () ∧
    schema.type.WellNamed ∧ schema.type.UnionsWithin maxArrayVariants ∧
    layoutSchema schema = .ok slots ∧ schemaOf slots = .ok back ∧ back ≠ schema := by
  let variants := List.replicate maxArrayVariants (DataType.primitive .int)
  have hlayout : layout (.union variants) = .ok (.union .dense []) :=
    layout_union_of_length_eq rfl (by decide +kernel)
  refine ⟨⟨[⟨"any", .union variants⟩], by decide +kernel⟩, [⟨"any", .union .dense [], true, []⟩],
    ⟨[⟨"any", .union []⟩], by decide +kernel⟩, by decide +kernel, by decide +kernel, by decide +kernel,
    ?_, rfl, by decide⟩
  rw [layoutSchema, layoutFields, hlayout]
  rfl

end Columnar

end ColumnScan
