import ColumnScan.Proofs.Columnar.Schemas
import ColumnScan.Proofs.Json.Records
import ColumnScan.Schema.Codec

/-!
# Types come back from their JSON

A type whose structs have names in order is read again as it was, whatever it is built from; and what
is read as a type has names in order in every struct, because each struct is checked when it is read.
Main statements: `DataType.coded`, `DataType.wellNamed_of_decode`, and `DataType.wellNamed_iff`, which
says what names in order are.
-/

namespace ColumnScan

open Json (Coded)

/-! ## Names in order -/

/-- Names in order are names that are neither blank nor repeated, case aside, in every struct. -/
theorem DataType.wellNamed_iff {type : DataType} :
    type.WellNamed ↔ ∀ fields, .struct fields ∈ type.nodes → StructType.ProperNames fields := by
  constructor
  · intro h fields hfields
    exact StructType.checkNames_nil_eq_ok_iff.1 (h _ hfields)
  · intro h part hpart
    cases part with
    | struct fields => exact StructType.checkNames_nil_eq_ok_iff.2 (h fields hpart)
    | _ => rfl

/-! ## Kinds -/

theorem Kind.coded_limit (limit : UInt32) :
    Coded (fun l : UInt32 => .ofInt l.toNat) (fun j => (j.toNat? 32).map (·.toUInt32)) limit := by
  have hnat := Json.coded_nat limit.toNat_lt
  refine ⟨hnat.written, fun d => ?_⟩
  rw [hnat.decoded, Json.map_ite_some]
  exact if_congr Iff.rfl (congrArg some UInt32.ofNat_toNat) rfl

theorem Kind.coded_parameters (precision scale : UInt8) :
    Coded (fun _ => .ofMembers [("precision", .ofInt precision.toNat), ("scale", .ofInt scale.toNat)])
      decodeDecimal (.decimal precision scale) := by
  have hprecision : Coded (fun n : Nat => .ofInt n) (Json.toNat? 8) precision.toNat :=
    Json.coded_nat precision.toNat_lt
  have hscale : Coded (fun n : Nat => .ofInt n) (Json.toNat? 8) scale.toNat :=
    Json.coded_nat scale.toNat_lt
  refine ⟨Json.wellWritten_ofMembers ⟨hprecision.written, hscale.written⟩, fun d => ?_⟩
  cases d with
  | zero => rfl
  | succ d =>
    rw [decodeDecimal, Json.record?_cut]
    · show ((Json.toNat? 8 ((Json.ofInt precision.toNat).cut d)).bind fun p =>
        (Json.toNat? 8 ((Json.ofInt scale.toNat).cut d)).bind fun s =>
          some (Kind.decimal p.toUInt8 s.toUInt8)) = _
      rw [hprecision.decoded, hscale.decoded, Json.bind_ite_some, Json.bind_ite_some,
        Json.ite_ite_depth]
      exact if_congr (by simp [Json.ofMembers, Json.depth, Json.depthMembers])
        (congrArg some (congrArg₂ decimal UInt8.ofNat_toNat UInt8.ofNat_toNat)) rfl
    · rfl
    · decide

theorem Kind.coded (kind : Kind) : Coded encode decode kind := by
  cases kind with
  | decimal precision scale =>
    have hparameters : Coded encode decode (id (.decimal precision scale)) :=
      (coded_parameters precision scale).choice rfl rfl fun _ => Option.map_id'.symm
    exact hparameters
  | char limit => exact (coded_limit limit).choice rfl rfl fun j => (Option.map_map ..).symm
  | varchar limit => exact (coded_limit limit).choice rfl rfl fun j => (Option.map_map ..).symm
  | _ => exact Json.coded_scalar (.string _) rfl (by decide)

/-! ## Types -/

namespace DataType

theorem structOfFields_eq_some_iff {fields : List Field} {type : DataType} :
    structOfFields fields = some type ↔
      StructType.ProperNames fields ∧ type = .struct fields := by
  rw [structOfFields]
  cases h : StructType.ofFields fields with
  | error e =>
    refine iff_of_false nofun ?_
    rintro ⟨hproper, _⟩
    rw [StructType.ofFields_of_proper hproper] at h
    cases h
  | ok s =>
    obtain ⟨hproper, rfl⟩ := StructType.ofFields_eq_ok_iff.1 h
    rw [and_iff_right hproper, Option.some.injEq]
    exact eq_comm

theorem wellNamed_struct_iff {fields : List Field} :
    WellNamed (.struct fields) ↔
      StructType.ProperNames fields ∧ ∀ f ∈ fields, f.type.WellNamed :=
  throughout_struct.trans (and_congr_left' StructType.checkNames_nil_eq_ok_iff)

theorem encodeVariants_eq_map (variants : List DataType) :
    encodeVariants variants = variants.map encode := by
  induction variants with
  | nil => rfl
  | cons type variants ih => rw [encodeVariants, ih, List.map_cons]

theorem decodeVariants_eq_mapM (items : List Json) : decodeVariants items = items.mapM decode := by
  induction items with
  | nil => rfl
  | cons j items ih => rw [decodeVariants, ih, List.mapM_cons]

/-- A field as JSON. -/
def encodeField (f : Field) : Json :=
  .ofMembers [("name", .ofString f.name), ("data_type", f.type.encode)]

theorem encodeFields_eq_map (fields : List Field) : encodeFields fields = fields.map encodeField := by
  induction fields with
  | nil => rfl
  | cons f fields ih => rw [encodeFields, ih, List.map_cons]; rfl

theorem decodeFields_eq_mapM (items : List Json) : decodeFields items = items.mapM decodeField := by
  induction items with
  | nil => rfl
  | cons j items ih => rw [decodeFields, ih, List.mapM_cons]

/-- A field is coded if its type is. -/
theorem coded_field {f : Field} (h : Coded encode decode f.type) :
    Coded encodeField decodeField f := by
  refine ⟨Json.wellWritten_ofMembers ⟨.string _, h.written⟩, fun d => ?_⟩
  cases d with
  | zero => rfl
  | succ d =>
    rw [encodeField, Json.cut_ofMembers]
    show Json.membersNamed? fieldMembers
      ([("name", Json.ofString f.name, decode (.ofString f.name)),
        ("data_type", f.type.encode.cut d, decode (f.type.encode.cut d))].map
        fun m => (some m.1, m.2)) >>= fieldOfMembers = _
    rw [Json.membersNamed?_of_names, h.decoded]
    · show ((if f.type.encode.depth ≤ d then some f.type else none).bind fun type =>
        some (⟨f.name, type⟩ : Field)) = _
      rw [Json.bind_ite_some]
      exact if_congr (by simp [Json.ofMembers, Json.depth, Json.depthMembers, Json.ofString]) rfl rfl
    · rfl
    · decide

theorem decode_union (j : Json) :
    decode (.choice "Union" j) = (j.toList? decode).map union := by
  cases j with
  | array items => exact congrArg (Option.map union) (decodeVariants_eq_mapM items)
  | _ => rfl

/-- The struct with fields whose names are in order is found with its fields. -/
theorem decode_struct (j : Json) :
    decode (.choice "Struct" j) = (j.toList? decodeField).bind structOfFields := by
  cases j with
  | array items =>
    show (decodeFields items).bind structOfFields = _
    rw [decodeFields_eq_mapM]
    rfl
  | _ => rfl

/-- A struct with names in order is coded if its fields are. -/
theorem coded_struct {fields : List Field} (hproper : StructType.ProperNames fields)
    (h : ∀ f ∈ fields, Coded encodeField decodeField f) : Coded encode decode (.struct fields) := by
  have hfields := Coded.list h
  have hencode : encode (.struct fields) = .choice "Struct" (.array (fields.map encodeField)) := by
    rw [encode, encodeFields_eq_map]
  refine ⟨?_, fun d => ?_⟩
  · rw [hencode]
    exact Json.wellWritten_ofMembers hfields.written
  · rw [hencode, Json.depth_choice]
    cases d with
    | zero => rfl
    | succ d =>
      rw [Json.choice, Json.cut_ofMembers]
      show decode (.choice "Struct" ((Json.array (fields.map encodeField)).cut d)) = _
      rw [decode_struct, hfields.decoded, Json.bind_ite_some,
        structOfFields_eq_some_iff.2 ⟨hproper, rfl⟩]
      exact if_congr Nat.succ_le_succ_iff.symm rfl rfl

/-- The map with these types of keys and values. -/
def mapOf (types : DataType × DataType) : DataType := .map types.1 types.2

/-- The types of a map's keys and values as JSON. -/
def encodePair (types : DataType × DataType) : Json := .array [types.1.encode, types.2.encode]

/-- The types of a map's keys and values that a JSON value stands for. -/
def decodePair (j : Json) : Option (DataType × DataType) :=
  match j.toList? decode with
  | some [key, value] => some (key, value)
  | _ => none

theorem decode_map (j : Json) : decode (.choice "Map" j) = (decodePair j).map mapOf := by
  cases j with
  | array items =>
    show (match decodeVariants items with
      | some [key, value] => some (DataType.map key value)
      | _ => none) = _
    rw [decodeVariants_eq_mapM, decodePair, Json.toList?]
    split <;> rfl
  | _ => rfl

/-- A map is coded if its keys and its values are. -/
theorem coded_map {key value : DataType} (hkey : Coded encode decode key)
    (hvalue : Coded encode decode value) : Coded encode decode (.map key value) := by
  have hlist : Coded _ (Json.toList? decode) [key, value] :=
    .list (List.forall_mem_cons.2 ⟨hkey, List.forall_mem_singleton.2 hvalue⟩)
  have hpair : Coded encodePair decodePair (key, value) := by
    refine ⟨hlist.written, fun d => ?_⟩
    show (match Json.toList? decode ((Json.array ([key, value].map encode)).cut d) with
      | some [key, value] => some (key, value)
      | _ => none) = if (Json.array ([key, value].map encode)).depth ≤ d then _ else none
    rw [hlist.decoded]
    split_ifs <;> rfl
  have hmap : Coded encode decode (mapOf (key, value)) := hpair.choice rfl rfl decode_map
  exact hmap

mutual

theorem coded : (type : DataType) → type.WellNamed → Coded encode decode type
  | .primitive kind, _ => kind.coded.choice rfl rfl fun _ => rfl
  | .struct fields, h => by
    obtain ⟨hproper, hparts⟩ := wellNamed_struct_iff.1 h
    exact coded_struct hproper (codedFields fields hparts)
  | .list element, h => (coded element (throughout_list.1 h).2).choice rfl rfl fun _ => rfl
  | .map key value, h =>
    coded_map (coded key (throughout_map.1 h).2.1) (coded value (throughout_map.1 h).2.2)
  | .union variants, h =>
    (Coded.list (codedVariants variants (throughout_union.1 h).2)).choice
      (by rw [encode, encodeVariants_eq_map]) rfl decode_union

theorem codedVariants : (variants : List DataType) → (∀ type ∈ variants, type.WellNamed) →
    ∀ type ∈ variants, Coded encode decode type
  | [], _ => nofun
  | type :: rest, h => by
    obtain ⟨hfirst, hrest⟩ := List.forall_mem_cons.1 h
    exact List.forall_mem_cons.2 ⟨coded type hfirst, codedVariants rest hrest⟩

theorem codedFields : (fields : List Field) → (∀ f ∈ fields, f.type.WellNamed) →
    ∀ f ∈ fields, Coded encodeField decodeField f
  | [], _ => nofun
  | ⟨name, type⟩ :: rest, h => by
    obtain ⟨hfirst, hrest⟩ := List.forall_mem_cons.1 h
    exact List.forall_mem_cons.2
      ⟨coded_field (f := ⟨name, type⟩) (coded type hfirst), codedFields rest hrest⟩

end

/-! ## What is read has names in order -/

/-- The type of a field is the type that came with one of its members. -/
theorem exists_of_fieldOfMembers {parts : List (Option (Json × Option DataType))} {f : Field}
    (h : fieldOfMembers parts = some f) : ∃ j, some (j, some f.type) ∈ parts := by
  rw [fieldOfMembers.eq_def] at h
  split at h
  · next name i j type =>
    simp only [Option.bind_eq_bind, Option.bind_eq_some_iff, Option.pure_def,
      Option.some.injEq] at h
    obtain ⟨_, _, type, rfl, rfl⟩ := h
    exact ⟨j, List.mem_cons_of_mem _ List.mem_cons_self⟩
  · cases h

/-- What is read as a type is one of five forms, built from what its content is read as. -/
theorem decode_cases {j : Json} {type : DataType} (h : decode j = some type) :
    (∃ kind, type = .primitive kind) ∨
    (∃ content element, j = .object [(some "List", content)] ∧ decode content = some element ∧
      type = .list element) ∨
    (∃ items fields, j = .object [(some "Struct", .array items)] ∧
      decodeFields items = some fields ∧ StructType.ProperNames fields ∧ type = .struct fields) ∨
    (∃ items variants, j = .object [(some "Union", .array items)] ∧
      decodeVariants items = some variants ∧ type = .union variants) ∨
    ∃ items key value, j = .object [(some "Map", .array items)] ∧
      decodeVariants items = some [key, value] ∧ type = .map key value := by
  rw [decode.eq_def] at h
  split at h
  · next form content =>
    split_ifs at h with hprimitive hlist hstruct hunion hmap
    · obtain ⟨kind, _, rfl⟩ := Option.map_eq_some_iff.1 h
      exact .inl ⟨kind, rfl⟩
    · subst hlist
      obtain ⟨element, helement, rfl⟩ := Option.map_eq_some_iff.1 h
      exact .inr (.inl ⟨content, element, rfl, helement, rfl⟩)
    -- From here on the content has to be a list.
    · subst hstruct
      split at h
      · next items =>
        obtain ⟨fields, hfields, hstruct⟩ := Option.bind_eq_some_iff.1 h
        obtain ⟨hproper, rfl⟩ := structOfFields_eq_some_iff.1 hstruct
        exact .inr (.inr (.inl ⟨items, fields, rfl, hfields, hproper, rfl⟩))
      · cases h
    · subst hunion
      split at h
      · next items =>
        obtain ⟨variants, hvariants, rfl⟩ := Option.map_eq_some_iff.1 h
        exact .inr (.inr (.inr (.inl ⟨items, variants, rfl, hvariants, rfl⟩)))
      · cases h
    · subst hmap
      split at h
      · next items =>
        split at h
        · next key value hparts =>
          obtain rfl := Option.some.inj h
          exact .inr (.inr (.inr (.inr ⟨items, key, value, rfl, hparts, rfl⟩)))
        · cases h
      · cases h
    · split at h <;> cases h
  · cases h

/-- What a list of steps gives comes from the first item and the rest. -/
theorem cons_of_bind_eq_some {α : Type} {x : Option α} {y : Option (List α)} {as : List α}
    (h : (do let first ← x; let rest ← y; return first :: rest) = some as) :
    ∃ first rest, x = some first ∧ y = some rest ∧ as = first :: rest := by
  simp only [Option.bind_eq_bind, Option.bind_eq_some_iff, Option.pure_def, Option.some.injEq] at h
  obtain ⟨first, hfirst, rest, hrest, rfl⟩ := h
  exact ⟨first, rest, hfirst, hrest, rfl⟩

mutual

theorem wellNamed_of_decode : (j : Json) → {type : DataType} → decode j = some type →
    type.WellNamed
  | j, type, h => by
    rcases decode_cases h with ⟨kind, rfl⟩ | ⟨content, element, rfl, helement, rfl⟩ |
      ⟨items, fields, rfl, hfields, hproper, rfl⟩ | ⟨items, variants, rfl, hvariants, rfl⟩ |
      ⟨items, key, value, rfl, hparts, rfl⟩
    · exact throughout_primitive.2 rfl
    · exact throughout_list.2 ⟨rfl, wellNamed_of_decode content helement⟩
    · exact wellNamed_struct_iff.2 ⟨hproper, wellNamed_of_decodeFields items hfields⟩
    · exact throughout_union.2 ⟨rfl, wellNamed_of_decodeVariants items hvariants⟩
    · have hnamed := wellNamed_of_decodeVariants items hparts
      obtain ⟨hkey, hvalue⟩ := List.forall_mem_cons.1 hnamed
      exact throughout_map.2 ⟨rfl, hkey, List.forall_mem_singleton.1 hvalue⟩

theorem wellNamed_of_decodeVariants : (items : List Json) → {types : List DataType} →
    decodeVariants items = some types → ∀ type ∈ types, type.WellNamed
  | [], types, h => by
    obtain rfl := Option.some.inj h
    exact nofun
  | j :: rest, types, h => by
    obtain ⟨first, others, hfirst, hothers, rfl⟩ := cons_of_bind_eq_some h
    exact List.forall_mem_cons.2
      ⟨wellNamed_of_decode j hfirst, wellNamed_of_decodeVariants rest hothers⟩

theorem wellNamed_of_decodeFields : (items : List Json) → {fields : List Field} →
    decodeFields items = some fields → ∀ f ∈ fields, f.type.WellNamed
  | [], fields, h => by
    obtain rfl := Option.some.inj h
    exact nofun
  | j :: rest, fields, h => by
    obtain ⟨first, others, hfirst, hothers, rfl⟩ := cons_of_bind_eq_some h
    exact List.forall_mem_cons.2
      ⟨wellNamed_of_decodeField j hfirst, wellNamed_of_decodeFields rest hothers⟩

theorem wellNamed_of_decodeField : (j : Json) → {f : Field} → decodeField j = some f →
    f.type.WellNamed
  | .object members, f, h => by
    obtain ⟨parts, hparts, hfield⟩ := Option.bind_eq_some_iff.1 h
    obtain ⟨j, hj⟩ := exists_of_fieldOfMembers hfield
    obtain ⟨key, hmem⟩ := Json.exists_mem_of_membersNamed? hparts hj
    exact wellNamed_of_typedMembers members _ hmem _ rfl
  | .array items, f, h => by
    obtain ⟨parts, hparts, hfield⟩ := Option.bind_eq_some_iff.1 h
    obtain ⟨j, hj⟩ := exists_of_fieldOfMembers hfield
    exact wellNamed_of_typedItems items _ (Json.mem_of_membersInOrder? hparts hj) _ rfl
  | .null, _, h | .bool _, _, h | .number _, _, h | .string _, _, h | .buried, _, h => by
    cases h

theorem wellNamed_of_typedMembers : (members : List (Json.Text × Json)) →
    ∀ m ∈ typedMembers members, ∀ type, m.2.2 = some type → type.WellNamed
  | [] => nofun
  | (_, j) :: rest =>
    List.forall_mem_cons.2 ⟨fun _ h => wellNamed_of_decode j h, wellNamed_of_typedMembers rest⟩

theorem wellNamed_of_typedItems : (items : List Json) →
    ∀ m ∈ typedItems items, ∀ type, m.2 = some type → type.WellNamed
  | [] => nofun
  | j :: rest =>
    List.forall_mem_cons.2 ⟨fun _ h => wellNamed_of_decode j h, wellNamed_of_typedItems rest⟩

end

end DataType

/-! ## Structs -/

namespace StructType

theorem decode_eq_bind (j : Json) :
    decode j = (j.toList? DataType.decodeField).bind fun fields =>
      match ofFields fields with
      | .ok s => some s
      | .error _ => none := by
  cases j with
  | array items => exact congrArg (Option.bind · _) (DataType.decodeFields_eq_mapM items)
  | _ => rfl

theorem coded {s : StructType} (h : s.type.WellNamed) : Coded encode decode s := by
  obtain ⟨hproper, hparts⟩ := DataType.wellNamed_struct_iff.1 h
  have hfields := Coded.list (DataType.codedFields s.fields hparts)
  have hencode : s.encode = .array (s.fields.map DataType.encodeField) := by
    rw [encode, DataType.encodeFields_eq_map]
  refine ⟨hencode ▸ hfields.written, fun d => ?_⟩
  rw [hencode, decode_eq_bind, hfields.decoded, Json.bind_ite_some,
    ofFields_eq_ok_iff.2 ⟨hproper, rfl⟩]

theorem wellNamed_of_decode {j : Json} {s : StructType} (h : decode j = some s) :
    s.type.WellNamed := by
  cases j with
  | array items =>
    obtain ⟨fields, hfields, hs⟩ := Option.bind_eq_some_iff.1 h
    split at hs
    · next s' hs' =>
      obtain rfl := Option.some.inj hs
      obtain ⟨hproper, rfl⟩ := ofFields_eq_ok_iff.1 hs'
      exact DataType.wellNamed_struct_iff.2
        ⟨hproper, DataType.wellNamed_of_decodeFields items hfields⟩
    · cases hs
  | _ => cases h

end StructType

end ColumnScan
