import ColumnScan.Proofs.Columnar.Rows
import ColumnScan.Proofs.Columnar.Schemas
import ColumnScan.Storage.File

/-!
# Which rows a batch takes

A batch takes rows exactly when every cell suits the type of its column, cells that are missing being
null, and no variant of a union gets more values than its array has places. What suits a type is said by
`Suits`, value by value and without a word on columns: null does, except as a key, and otherwise the
value has the form of the type and so do the values inside it; what has room is said by `Roomy` of all
values of a column. The first column with a fault of either kind is named, and the error tells which kind
it is. This holds of types whose arrays have no limits of their own, as `DataType.Storable` lists them.
Main statements: `check_iff_suits` for columns and `Batch.ofRows_suits` for rows.
-/

namespace ColumnScan

namespace DataType

/-! ## Types whose arrays have no limits of their own -/

/-- The type of the keys, if the type is a map. -/
def key? : DataType → Option DataType
  | .map key _ => some key
  | _ => none

/-- The type is valid, every struct in it has a field, the variants of every union can be told apart,
and no key holds a union. -/
structure Storable (type : DataType) : Prop where
  valid : type.validate = .ok ()
  structs : type.Throughout fun part => part.fields? ≠ some []
  unions : type.UnionsWithin (maxArrayVariants - 1)
  keys : type.Throughout fun part => ∀ key ∈ part.key?, key.hasUnion = false

instance (type : DataType) : Decidable type.Storable :=
  decidable_of_iff (type.validate = .ok () ∧ (∀ part ∈ type.nodes, part.fields? ≠ some []) ∧
      type.UnionsWithin (maxArrayVariants - 1) ∧
      ∀ part ∈ type.nodes, ∀ key ∈ part.key?, key.hasUnion = false)
    ⟨fun ⟨valid, structs, unions, keys⟩ => ⟨valid, structs, unions, keys⟩,
      fun ⟨valid, structs, unions, keys⟩ => ⟨valid, structs, unions, keys⟩⟩

namespace Storable

variable {fields : List (Named DataType)} {element k v : DataType} {variants : List DataType}

theorem nonempty (h : Storable (.struct fields)) : fields ≠ [] := by
  have hsome := (throughout_struct.1 h.structs).1
  rintro rfl
  exact hsome rfl

theorem struct (h : Storable (.struct fields)) : ∀ field ∈ fields, Storable field.type :=
  fun field hfield => {
    valid := validate_of_validateFields h.valid field hfield
    structs := (throughout_struct.1 h.structs).2 field hfield
    unions := unionsWithin_struct.1 h.unions field hfield
    keys := (throughout_struct.1 h.keys).2 field hfield }

theorem list (h : Storable (.list element)) : Storable element where
  valid := h.valid
  structs := (throughout_list.1 h.structs).2
  unions := unionsWithin_list.1 h.unions
  keys := (throughout_list.1 h.keys).2

theorem key (h : Storable (.map k v)) : Storable k where
  valid := (andThen_eq_ok_iff.1 h.valid).1
  structs := (throughout_map.1 h.structs).2.1
  unions := (unionsWithin_map.1 h.unions).1
  keys := (throughout_map.1 h.keys).2.1

theorem value (h : Storable (.map k v)) : Storable v where
  valid := (andThen_eq_ok_iff.1 h.valid).2
  structs := (throughout_map.1 h.structs).2.2
  unions := (unionsWithin_map.1 h.unions).2
  keys := (throughout_map.1 h.keys).2.2

theorem noUnion (h : Storable (.map k v)) : k.hasUnion = false :=
  (throughout_map.1 h.keys).1 k rfl

theorem union (h : Storable (.union variants)) : ∀ type ∈ variants, Storable type :=
  fun type htype => {
    valid := validate_of_validateVariants (andThen_eq_ok_iff.1 h.valid).2 type htype
    structs := (throughout_union.1 h.structs).2 type htype
    unions := (unionsWithin_union.1 h.unions).2 type htype
    keys := (throughout_union.1 h.keys).2 type htype }

theorem room (h : Storable (.union variants)) : variants.length ≠ maxArrayVariants := by
  have hcount := (unionsWithin_union.1 h.unions).1
  exact Nat.ne_of_lt (Nat.lt_of_le_sub_one (by decide) hcount)

end Storable

end DataType

/-! ## Values that suit a type -/

/-- A value other than null that suits a scalar kind: it is of the kind, and a decimal can be brought to
the scale. -/
inductive Kind.Takes : Kind → Stored → Prop where
  | string (s : String) : Takes .string (.scalar (.string s))
  | char (limit : UInt32) (s : BoundedText) : Takes (.char limit) (.char s)
  | varchar (limit : UInt32) (s : BoundedText) : Takes (.varchar limit) (.varchar s)
  | boolean (b : Bool) : Takes .boolean (.scalar (.boolean b))
  | byte (n : Int8) : Takes .byte (.scalar (.byte n))
  | short (n : Int16) : Takes .short (.scalar (.short n))
  | int (n : Int32) : Takes .int (.scalar (.int n))
  | long (n : Int64) : Takes .long (.scalar (.long n))
  | float (x : Ieee.Single) : Takes .float (.scalar (.float x))
  | double (x : Ieee.Double) : Takes .double (.scalar (.double x))
  | binary (bytes : List UInt8) : Takes .binary (.scalar (.binary bytes))
  | date (days : Int32) : Takes .date (.date days)
  | timestamp (nanos : Int64) : Takes .timestamp (.timestamp nanos)
  | decimal (precision : UInt8) {scale : UInt8} {d e : Decimal} (h : d.rescale scale.toNat = some e) :
    Takes (.decimal precision scale) (.scalar (.decimal d))

namespace Columnar

/-- A value suits a type: it is null, or it has the form of the type and the values inside it suit the
types of their parts, keys not being null. Children without a field are left out of it, and so are
fields without a child. -/
inductive Suits : DataType → Stored → Prop where
  | null (type : DataType) : Suits type .null
  | scalar {kind : Kind} {v : Stored} (h : kind.Takes v) : Suits (.primitive kind) v
  | struct {fields : List (Named DataType)} {children : List Stored}
    (parts : ∀ (i : Nat) field child, fields[i]? = some field → children[i]? = some child →
      Suits field.type child) : Suits (.struct fields) (.struct children)
  | list {element : DataType} {items : List Stored} (parts : ∀ item ∈ items, Suits element item) :
    Suits (.list element) (.list items)
  | map {key value : DataType} {entries : List (Stored × Stored)}
    (named : ∀ e ∈ entries, e.1.isNull = false) (keys : ∀ e ∈ entries, Suits key e.1)
    (values : ∀ e ∈ entries, Suits value e.2) : Suits (.map key value) (.map entries)
  | union {variants : List DataType} {tag : UInt8} {variant : DataType} {value : Stored}
    (known : variants[tag.toNat]? = some variant) (part : Suits variant value) :
    Suits (.union variants) (.union tag value)

variable {type : DataType} {path : String} {values values' : List Stored}

theorem isSome_encodeScalar?_iff {kind : Kind} {v : Stored} :
    (encodeScalar? kind v).isSome ↔ kind.Takes v := by
  constructor
  · intro h
    unfold encodeScalar? at h
    split at h
    case h_14 =>
      rw [Option.isSome_map] at h
      obtain ⟨e, he⟩ := Option.isSome_iff_exists.1 h
      exact .decimal _ he
    all_goals first | constructor | cases h
  · intro h
    cases h with
    | decimal precision h =>
      rw [encodeScalar?, h]
      rfl
    | _ => rfl

theorem isMisfit_eq_false_iff {kind : Kind} {v : Stored} :
    isMisfit kind v = false ↔ v = .null ∨ kind.Takes v := by
  rw [← isSome_encodeScalar?_iff, isMisfit, Bool.and_eq_false_iff, Bool.not_eq_eq_eq_not,
    Bool.not_false, Option.isNone_eq_false_iff]
  exact or_congr_left ⟨eq_null_of_isNull, fun h => h ▸ rfl⟩

/-- A value that fits suits the type. -/
theorem Fits.suits {v : Stored} (h : Fits type v) : Suits type v := by
  induction h with
  | scalar form =>
    obtain rfl | htakes := isMisfit_eq_false_iff.1 form
    · exact .null _
    · exact .scalar htakes
  | @struct _ v form _ ih =>
    cases v with
    | null => exact .null _
    | struct children =>
      refine .struct fun i field child hfield hchild => ?_
      have hpart := ih i field hfield
      rwa [childAt, hchild] at hpart
    | _ => cases form
  | @list _ v form _ ih =>
    cases v with
    | null => exact .null _
    | list items => exact .list ih
    | _ => cases form
  | @map _ _ v form solid _ _ ihkeys ihvalues =>
    cases v with
    | null => exact .null _
    | map entries => exact .map (fun e he => isNull_of_isHollow (solid e he)) ihkeys ihvalues
    | _ => cases form
  | @union variants v _ form _ ih =>
    cases v with
    | null => exact .null _
    | union tag value =>
      have hlt : tag.toNat < variants.length := Nat.lt_of_not_le (of_decide_eq_false form)
      have hknown := List.getElem?_eq_getElem hlt
      exact .union hknown (ih _ hknown)
    | _ => cases form

/-- A key that suits a type without unions does not hide a null. -/
theorem Suits.isHollow_eq_false {v : Stored} (h : Suits type v) (noUnion : type.hasUnion = false)
    (notNull : v.isNull = false) : isHollow v = false := by
  cases h with
  | null => cases notNull
  | scalar h => cases h <;> rfl
  | union => cases noUnion
  | _ => rfl

/-! ## Columns -/

theorem isArrayKind_of_validate {kind : Kind} (valid : kind.validate = .ok ()) :
    isArrayKind kind = true := by
  cases kind with
  | decimal precision scale =>
    obtain ⟨hpos, hmax, hscale⟩ := Kind.decimal_of_validate valid
    rw [maxPrecision] at hmax
    simp only [isArrayKind, areArrayParameters, Kind.toInt_scale_of_validate valid,
      Bool.and_eq_true, Bool.or_eq_true, decide_eq_true_eq]
    simp only [maxPrecision, Decimal.maxScale]
    omega
  | _ => rfl

mutual

/-- An empty column can be made of every such type. -/
theorem check_nil (type : DataType) (storable : type.Storable) (path : String) :
    check path [] type = .ok () := by
  cases type with
  | primitive kind =>
    exact check_primitive_iff.2 ⟨nofun, isArrayKind_of_validate storable.valid⟩
  | struct fields =>
    exact check_struct_iff.2 ⟨List.isEmpty_eq_false_iff.2 storable.nonempty, nofun,
      checkFields_nil fields storable.struct path 0⟩
  | list element => exact check_list_iff.2 ⟨nofun, check_nil element storable.list _⟩
  | map key value =>
    exact check_map_iff.2
      ⟨nofun, check_nil key storable.key _, check_nil value storable.value _⟩
  | union variants =>
    exact check_union_iff.2
      ⟨⟨nofun, fun _ => Nat.zero_le _⟩, checkVariantValues_nil variants storable.union path 0,
        storable.room⟩

theorem checkFields_nil (fields : List (Named DataType))
    (storable : ∀ field ∈ fields, field.type.Storable) (path : String) (index : Nat) :
    checkFields path [] index fields = .ok () := by
  cases fields with
  | nil => rfl
  | cons first rest =>
    obtain ⟨hfirst, hrest⟩ := List.forall_mem_cons.1 storable
    obtain ⟨name, type⟩ := first
    exact checkFields_cons_iff.2
      ⟨check_nil type hfirst _, checkFields_nil rest hrest path (index + 1)⟩

theorem checkVariantValues_nil (variants : List DataType)
    (storable : ∀ type ∈ variants, type.Storable) (path : String) (index : Nat) :
    checkVariantValues path [] index variants = .ok () := by
  cases variants with
  | nil => rfl
  | cons first rest =>
    obtain ⟨hfirst, hrest⟩ := List.forall_mem_cons.1 storable
    exact checkVariantValues_cons_iff.2
      ⟨check_nil first hfirst _, checkVariantValues_nil rest hrest path (index + 1)⟩

end

theorem fits_null (storable : type.Storable) : Fits type .null :=
  (fits_and_returns_null (DataType.takesNull_of_validate storable.valid).1
    ⟨"", [], check_nil type storable ""⟩).1

/-- A value that suits the type fits. -/
theorem Suits.fits {v : Stored} (h : Suits type v) (storable : type.Storable) : Fits type v := by
  induction h with
  | null => exact fits_null storable
  | scalar htakes => exact .scalar (isMisfit_eq_false_iff.2 (.inr htakes))
  | @struct fields children _ ih =>
    refine .struct rfl fun i field hfield => ?_
    have hstorable := storable.struct field (List.mem_of_getElem? hfield)
    rw [childAt]
    cases hchild : children[i]? with
    | none => exact fits_null hstorable
    | some child => exact ih i field child hfield hchild hstorable
  | list _ ih => exact .list rfl fun item hitem => ih item hitem storable.list
  | map named keys _ ihkeys ihvalues =>
    refine .map rfl (fun e he => ?_) (fun e he => ihkeys e he storable.key)
      fun e he => ihvalues e he storable.value
    exact (keys e he).isHollow_eq_false storable.noUnion (named e he)
  | @union variants tag variant _ known _ ih =>
    have hlt := (List.getElem?_eq_some_iff.1 known).1
    refine .union storable.room (decide_eq_false (Nat.not_le_of_lt hlt)) fun other hother => ?_
    obtain rfl := Option.some.inj (known.symm.trans hother)
    exact ih (storable.union variant (List.mem_of_getElem? known))

/-- A column takes values exactly when every one of them suits its type and they have room. -/
theorem check_iff_suits (storable : type.Storable) :
    check path values type = .ok () ↔ (∀ v ∈ values, Suits type v) ∧ Roomy type values :=
  ⟨fun h => ⟨fun _ hv => (fits_of_check type h hv).suits, roomy_of_check type h⟩,
    fun h => check_of_fits type (check_nil type storable path)
      (fun v hv => (h.1 v hv).fits storable) h.2⟩

/-! ## What is wrong with a column -/

/-- A value is refused in a column, or in a part of one, whose path begins so. -/
def RefusedUnder (path : String) (e : StorageError) : Prop :=
  ∃ part expected actual, e = .invalidValue (path ++ part) expected actual

/-- A variant of a union has no place left in a column, or in a part of one, whose path begins so. -/
def CrowdedUnder (path : String) (e : StorageError) : Prop :=
  ∃ part, e = .unsupported (.variantValues (path ++ part))

/-- The error tells what is wrong with a column: some value in it does not fit, or a variant of a union
has more values than places. -/
inductive ColumnFault (path : String) (type : DataType) (values : List Stored) (e : StorageError) :
    Prop where
  | misfit (refused : RefusedUnder path e) (bad : ¬∀ v ∈ values, Fits type v)
  | crowd (crowded : CrowdedUnder path e) (bad : ¬Roomy type values)

/-- What is wrong with a part of a column is wrong with the column. -/
theorem ColumnFault.of_part {part : String} {type' : DataType} {values' : List Stored}
    {e : StorageError} (h : ColumnFault (path ++ part) type' values' e)
    (fits : (∀ v ∈ values, Fits type v) → ∀ v ∈ values', Fits type' v)
    (roomy : Roomy type values → Roomy type' values') : ColumnFault path type values e := by
  cases h with
  | misfit refused bad =>
    obtain ⟨deeper, expected, actual, rfl⟩ := refused
    exact .misfit ⟨part ++ deeper, expected, actual, by rw [String.append_assoc]⟩ (mt fits bad)
  | crowd crowded bad =>
    obtain ⟨deeper, rfl⟩ := crowded
    exact .crowd ⟨part ++ deeper, by rw [String.append_assoc]⟩ (mt roomy bad)

theorem columnFault_of_misfit {expected : DataType} {actual : String} {v : Stored} (hv : v ∈ values)
    (bad : ¬Fits type v) : ColumnFault path type values (.invalidValue path expected actual) :=
  .misfit ⟨"", expected, actual, by rw [String.append_empty]⟩ fun fits => bad (fits v hv)

theorem failsBy_refuseFirst {bad : Stored → Bool} (h : ∀ v, Fits type v → bad v = false) :
    FailsBy (ColumnFault path type values) (refuseFirst path type bad values) := by
  unfold refuseFirst
  split
  next v hfind =>
    refine failsBy_error (columnFault_of_misfit (List.mem_of_find?_eq_some hfind) fun fits => ?_)
    exact Bool.eq_false_iff.1 (h v fits) (List.find?_some hfind)
  next => exact failsBy_ok ()

theorem failsBy_checkMaps {key value : DataType} (hsub : values' ⊆ values) :
    FailsBy (ColumnFault path (.map key value) values)
      (checkMaps path key (.map key value) values') := by
  induction values' with
  | nil => exact failsBy_ok ()
  | cons v rest ih =>
    obtain ⟨hv, hrest⟩ := List.cons_subset.1 hsub
    cases v with
    | null => exact ih hrest
    | map entries =>
      refine FailsBy.bind ?_ fun _ => ih hrest
      unfold refuseFirst
      split
      next k hfind =>
        obtain ⟨e, he, rfl⟩ := List.mem_map.1 (List.mem_of_find?_eq_some hfind)
        refine failsBy_error (.misfit ⟨".key", key, _, rfl⟩ fun fits => ?_)
        cases fits _ hv with
        | map _ solid =>
          exact Bool.eq_false_iff.1 (isNull_of_isHollow (solid e he)) (List.find?_some hfind)
      next => exact failsBy_ok ()
    | _ => exact failsBy_error (columnFault_of_misfit hv fun fits => by cases fits; contradiction)

/-- The variants taken before are those of the values before. -/
theorem failsBy_checkUnions {variants : List DataType} (done : List Stored)
    (h : done.reverse ++ values' = values) :
    FailsBy (ColumnFault path (.union variants) values)
      (checkUnions path variants (done.map fun v => (partOf v).1) values') := by
  induction values' generalizing done with
  | nil => exact failsBy_ok ()
  | cons v rest ih =>
    rw [checkUnions]
    split
    next hform =>
      refine failsBy_error (columnFault_of_misfit (h ▸ List.mem_append_right _ List.mem_cons_self) ?_)
      intro fits
      cases fits with
      | union _ form => exact Bool.eq_false_iff.1 form hform
    next =>
      split
      next hfull =>
        refine failsBy_error (.crowd ⟨"", by rw [String.append_empty]⟩ fun roomy => ?_)
        cases roomy with
        | union places =>
          have hplaces := places (partOf v).1
          rw [length_valuesOf, ← h, List.map_append, List.count_append, List.map_reverse,
            List.count_reverse, List.map_cons, List.count_cons_self] at hplaces
          omega
      next =>
        refine ih (v :: done) ?_
        rw [List.reverse_cons, List.append_assoc]
        exact h

mutual

/-- Nothing is wrong with a column of such a type but a value in it, or too many of them. -/
theorem failsBy_check (type : DataType) (storable : type.Storable) (path : String)
    (values : List Stored) :
    FailsBy (ColumnFault path type values) (check path values type) := by
  cases type with
  | primitive kind =>
    rw [check, isArrayKind_of_validate storable.valid]
    refine (failsBy_refuseFirst fun v fits => ?_).bind fun _ => failsBy_ok ()
    cases fits with
    | scalar form => exact form
  | struct fields =>
    rw [check, if_neg (by simpa using storable.nonempty)]
    refine (failsBy_refuseFirst fun v fits => ?_).bind fun _ => ?_
    · cases fits with
      | struct form => exact form
    · exact failsBy_checkFields fields storable.struct path values 0 _ fun i field hfield => by
        rw [Nat.zero_add]
        exact ⟨fun fits => fits_childrenAt fits hfield, fun | .struct parts => parts i field hfield⟩
  | list element =>
    rw [check]
    refine (failsBy_refuseFirst fun v fits => ?_).bind fun _ e he => ?_
    · cases fits with
      | list form => exact form
    · exact (failsBy_check element storable.list _ _ e he).of_part fits_itemsOf fun | .list items => items
  | map key value =>
    rw [check]
    refine (failsBy_checkMaps (List.Subset.refl _)).bind_of_ok fun _ hmaps => ?_
    refine FailsBy.bind_of_ok (fun e he => ?_) fun _ hkeys => ?_
    · refine (failsBy_check key storable.key _ _ e he).of_part (fun fits => ?_) fun | .map keys _ => keys
      exact List.forall_mem_map.2 fun e he => (fits_entriesOf fits e he).1
    refine FailsBy.bind (fun e he => ?_) fun _ => ?_
    · refine (failsBy_check value storable.value _ _ e he).of_part (fun fits => ?_)
        fun | .map _ values => values
      exact List.forall_mem_map.2 fun e he => (fits_entriesOf fits e he).2
    -- The keys suit their type by now, so that none of them hides a null.
    have hsolid : ¬(entriesOf values).any (isHollow ·.1) = true := by
      rw [Bool.not_eq_true, List.any_eq_false]
      intro e he
      obtain ⟨v, hv, hentry⟩ := List.mem_flatMap.1 he
      have hsuits := (fits_of_check key hkeys (List.mem_map_of_mem he)).suits
      have hnull := (checkMaps_eq_ok_iff.1 hmaps v hv).2 e hentry
      exact Bool.eq_false_iff.1 (hsuits.isHollow_eq_false storable.noUnion hnull)
    rw [if_neg hsolid]
    exact failsBy_ok ()
  | union variants =>
    rw [check, if_neg storable.room]
    refine (failsBy_checkUnions [] rfl).bind fun _ => FailsBy.bind ?_ fun _ => failsBy_ok ()
    exact failsBy_checkVariantValues variants storable.union path values 0 _ fun i variant hvariant => by
      rw [Nat.zero_add]
      exact ⟨fun fits => fits_valuesOf fits hvariant, fun | .union _ parts => parts i variant hvariant⟩

theorem failsBy_checkFields (fields : List (Named DataType))
    (storable : ∀ field ∈ fields, field.type.Storable) (path : String) (values : List Stored)
    (index : Nat) (type : DataType)
    (parts : ∀ i field, fields[i]? = some field →
      ((∀ v ∈ values, Fits type v) → ∀ child ∈ childrenAt (index + i) values, Fits field.type child) ∧
        (Roomy type values → Roomy field.type (childrenAt (index + i) values))) :
    FailsBy (ColumnFault path type values) (checkFields path values index fields) := by
  cases fields with
  | nil => exact failsBy_ok ()
  | cons first rest =>
    obtain ⟨hfirst, hrest⟩ := List.forall_mem_cons.1 storable
    obtain ⟨name, part⟩ := first
    obtain ⟨fits, roomy⟩ := parts 0 ⟨name, part⟩ rfl
    rw [checkFields]
    refine FailsBy.bind (fun e he => ?_) fun _ => ?_
    · have hpart := failsBy_check part hfirst _ _ e he
      rw [String.append_assoc] at hpart
      exact hpart.of_part fits roomy
    · refine failsBy_checkFields rest hrest path values (index + 1) type fun i field hfield => ?_
      rw [Nat.add_assoc, Nat.add_comm 1]
      exact parts (i + 1) field hfield

theorem failsBy_checkVariantValues (variants : List DataType)
    (storable : ∀ type ∈ variants, type.Storable) (path : String) (values : List Stored)
    (index : Nat) (type : DataType)
    (parts : ∀ i variant, variants[i]? = some variant →
      ((∀ v ∈ values, Fits type v) → ∀ part ∈ valuesOf (index + i) values, Fits variant part) ∧
        (Roomy type values → Roomy variant (valuesOf (index + i) values))) :
    FailsBy (ColumnFault path type values) (checkVariantValues path values index variants) := by
  cases variants with
  | nil => exact failsBy_ok ()
  | cons first rest =>
    obtain ⟨hfirst, hrest⟩ := List.forall_mem_cons.1 storable
    obtain ⟨fits, roomy⟩ := parts 0 first rfl
    rw [checkVariantValues]
    refine FailsBy.bind (fun e he => ?_) fun _ => ?_
    · have hpart := failsBy_check first hfirst _ _ e he
      rw [String.append_assoc, String.append_assoc] at hpart
      exact hpart.of_part fits roomy
    · refine failsBy_checkVariantValues rest hrest path values (index + 1) type
        fun i variant hvariant => ?_
      rw [Nat.add_assoc, Nat.add_comm 1]
      exact parts (i + 1) variant hvariant

end

/-! ## Rows -/

namespace Batch

variable {schema : StructType} {rows : List Cells}

/-- Every cell of a column suits a type; cells that are missing are null. -/
def ColumnSuits (rows : List Cells) (ordinal : Nat) (type : DataType) : Prop :=
  ∀ row ∈ rows, Suits type (row.getD ordinal)

/-- The cells of a column have room. -/
def ColumnRoomy (rows : List Cells) (ordinal : Nat) (type : DataType) : Prop :=
  Roomy type (rows.map (·.getD ordinal))

theorem checkColumn_iff {field : Field} {ordinal : Nat} (storable : field.type.Storable) :
    check field.name (rows.map (·.getD ordinal)) field.type = .ok () ↔
      ColumnSuits rows ordinal field.type ∧ ColumnRoomy rows ordinal field.type :=
  (check_iff_suits storable).trans (and_congr_left fun _ => List.forall_mem_map)

/-- The check of columns fails at the first column whose check fails. -/
theorem checkColumns_of_error {ordinal : Nat} {fields : List Field} {e : StorageError}
    (h : checkColumns rows ordinal fields = .error e) :
    ∃ k field, fields[k]? = some field ∧
      check field.name (rows.map (·.getD (ordinal + k))) field.type = .error e ∧
      ∀ j < k, ∀ other, fields[j]? = some other →
        check other.name (rows.map (·.getD (ordinal + j))) other.type = .ok () := by
  induction fields generalizing ordinal with
  | nil => cases h
  | cons first rest ih =>
    obtain herror | ⟨_, hfirst, hrest⟩ := bind_eq_error_iff.1 h
    · exact ⟨0, first, rfl, herror, nofun⟩
    obtain ⟨k, field, hfield, herror, hbefore⟩ := ih hrest
    have hshift (j : Nat) : ordinal + 1 + j = ordinal + (j + 1) := by omega
    refine ⟨k + 1, field, hfield, hshift k ▸ herror, fun j hj other hother => ?_⟩
    cases j with
    | zero =>
      cases hother
      exact hfirst
    | succ j => exact hshift j ▸ hbefore j (Nat.lt_of_succ_lt_succ hj) other hother

theorem exists_layoutSchema (storable : ∀ field ∈ schema.fields, field.type.Storable) :
    ∃ slots, layoutSchema schema = .ok slots :=
  (exists_layoutFields_iff schema.fields).2 fun field hfield part hpart =>
    Nat.le_trans ((storable field hfield).unions part hpart) (Nat.sub_le _ _)

theorem exists_ofRows_iff (storable : ∀ field ∈ schema.fields, field.type.Storable) :
    (∃ b, Batch.ofRows schema rows = .ok b) ↔ ∀ k field, schema.field? k = some field →
      ColumnSuits rows k field.type ∧ ColumnRoomy rows k field.type := by
  obtain ⟨slots, hslots⟩ := exists_layoutSchema storable
  have hcolumn (k : Nat) (field : Field) (hfield : schema.field? k = some field) :
      check field.name (rows.map (·.getD k)) field.type = .ok () ↔
        ColumnSuits rows k field.type ∧ ColumnRoomy rows k field.type :=
    checkColumn_iff (storable field (List.mem_of_getElem? hfield))
  simp only [ofRows_eq_ok_iff]
  constructor
  · rintro ⟨_, _, _, hchecks, -⟩ k field hfield
    exact (hcolumn k field hfield).1 (hchecks k field hfield)
  · intro hcells
    exact ⟨_, slots, hslots, fun k field hfield => (hcolumn k field hfield).2 (hcells k field hfield),
      rfl⟩

/-- Rows are refused for the first column with a fault, and the error tells which. -/
theorem fault_of_ofRows (storable : ∀ field ∈ schema.fields, field.type.Storable) {e : StorageError}
    (h : Batch.ofRows schema rows = .error e) :
    ∃ k field, schema.field? k = some field ∧
      (RefusedUnder field.name e ∧ ¬ColumnSuits rows k field.type ∨
        CrowdedUnder field.name e ∧ ¬ColumnRoomy rows k field.type) ∧
      ∀ j < k, ∀ other, schema.field? j = some other →
        ColumnSuits rows j other.type ∧ ColumnRoomy rows j other.type := by
  obtain ⟨slots, hslots⟩ := exists_layoutSchema storable
  obtain hlayout | ⟨_, -, h⟩ := bind_eq_error_iff.1 h
  · exact absurd (hslots.symm.trans hlayout) nofun
  have hcolumns : checkColumns rows 0 schema.fields = .error e :=
    (bind_eq_error_iff.1 h).resolve_right fun ⟨_, hbatch⟩ => nomatch hbatch.2
  obtain ⟨k, field, hfield, herror, hbefore⟩ := checkColumns_of_error hcolumns
  simp only [Nat.zero_add] at herror hbefore
  have hstorable := storable field (List.mem_of_getElem? hfield)
  refine ⟨k, field, hfield, ?_, fun j hj other hother => ?_⟩
  · cases failsBy_check field.type hstorable field.name _ e herror with
    | misfit refused bad =>
      refine .inl ⟨refused, fun suits => bad (List.forall_mem_map.2 fun row hrow => ?_)⟩
      exact (suits row hrow).fits hstorable
    | crowd crowded bad => exact .inr ⟨crowded, bad⟩
  · exact (checkColumn_iff (storable other (List.mem_of_getElem? hother))).1 (hbefore j hj other hother)

/-- A batch takes rows exactly when every cell suits its column and no variant of a union has more values
in a column than places. Otherwise the first column with either fault is told, by a path that begins with
its name: a value is refused only if a cell of the column does not suit it, and the variant is told to
be full only if one is. -/
theorem ofRows_suits (storable : ∀ field ∈ schema.fields, field.type.Storable) :
    ((∃ b, Batch.ofRows schema rows = .ok b) ↔ ∀ k field, schema.field? k = some field →
      ColumnSuits rows k field.type ∧ ColumnRoomy rows k field.type) ∧
    ∀ e, Batch.ofRows schema rows = .error e →
      ∃ k field, schema.field? k = some field ∧
        (RefusedUnder field.name e ∧ ¬ColumnSuits rows k field.type ∨
          CrowdedUnder field.name e ∧ ¬ColumnRoomy rows k field.type) ∧
        ∀ j < k, ∀ other, schema.field? j = some other →
          ColumnSuits rows j other.type ∧ ColumnRoomy rows j other.type :=
  ⟨exists_ofRows_iff storable, fun _ => fault_of_ofRows storable⟩

/-- Codes, and prices by year, each in figures or with a note. -/
def priceSchema : StructType :=
  ⟨[⟨"code", .primitive (.char 3)⟩,
    ⟨"prices", .map (.primitive .int)
      (.union [.primitive (.decimal 5 2), .struct [⟨"note", .primitive .string⟩]])⟩],
    by decide +kernel⟩

/-- A row without cells, and one with a note that is missing and no price for the next year. -/
def priceRows : List Cells :=
  [⟨[]⟩, ⟨[.null, .map [(.scalar (.int 1998), .union 1 (.struct [])), (.scalar (.int 1999), .null)]]⟩]

/-- A price of a third sort. -/
def strangePrice : Cells := ⟨[.null, .map [(.scalar (.int 1998), .union 2 .null)]]⟩

theorem ofRows_suits_prices :
    (∀ field ∈ priceSchema.fields, field.type.Storable) ∧
      (∃ b, Batch.ofRows priceSchema priceRows = .ok b) ∧
      ∃ e, Batch.ofRows priceSchema [strangePrice] = .error e ∧ RefusedUnder "prices" e := by
  have hstorable : ∀ field ∈ priceSchema.fields, field.type.Storable := by decide +kernel
  refine ⟨hstorable, (ofRows_suits hstorable).1.2 fun k field hfield => ?_, ?_⟩
  · match k, hfield with
    | 0, rfl =>
      refine ⟨?_, .scalar ..⟩
      exact List.forall_mem_cons.2 ⟨.null _, List.forall_mem_singleton.2 (.null _)⟩
    | 1, rfl =>
      refine ⟨List.forall_mem_cons.2 ⟨.null _, List.forall_mem_singleton.2 ?_⟩,
        @roomy_of_check _ "prices" _ rfl⟩
      refine .map (by decide) ?_ ?_
      · exact List.forall_mem_cons.2
          ⟨.scalar (.int 1998), List.forall_mem_singleton.2 (.scalar (.int 1999))⟩
      · refine List.forall_mem_cons.2 ⟨.union rfl (.struct ?_), List.forall_mem_singleton.2 (.null _)⟩
        intro i field child _ hchild
        cases hchild
  · obtain ⟨haccepts, hrefuses⟩ := @ofRows_suits _ [strangePrice] hstorable
    cases h : Batch.ofRows priceSchema [strangePrice] with
    | ok b =>
      -- The third of two variants would have to be known.
      have hprices := (haccepts.1 ⟨b, h⟩ 1 _ rfl).1 strangePrice List.mem_cons_self
      cases hprices with
      | map _ _ values =>
        cases values _ List.mem_cons_self with
        | union known _ => cases known
    | error e =>
      refine ⟨e, rfl, ?_⟩
      obtain ⟨k, field, hfield, hfault, -⟩ := hrefuses e h
      match k, hfield with
      | 0, rfl =>
        obtain ⟨-, hmisfit⟩ | ⟨-, hcrowd⟩ := hfault
        · exact absurd (List.forall_mem_singleton.2 (.null _)) hmisfit
        · exact absurd (.scalar ..) hcrowd
      | 1, rfl =>
        obtain ⟨hrefused, -⟩ | ⟨-, hcrowd⟩ := hfault
        · exact hrefused
        · refine absurd (.map (.scalar ..) (.union (fun i => ?_) fun i variant hvariant => ?_)) hcrowd
          · exact Nat.le_trans (List.length_filterMap_le ..) (by decide)
          · match i, hvariant with
            | 0, rfl => exact .scalar ..
            | 1, rfl => exact .struct fun | 0, _, rfl => .scalar ..

/-- Measures of one kind. -/
def measureSchema : StructType := ⟨[⟨"measure", .union [.primitive .int]⟩], by decide +kernel⟩

/-- As many measures as an array has places for, and one more. -/
def crowd : List Cells := List.replicate (maxVariantValues + 1) ⟨[.union 0 (.scalar (.int 5))]⟩

/-- Every measure suits the column, and yet there is no batch of all of them. -/
theorem ofRows_refuses_crowd :
    (∀ field ∈ measureSchema.fields, field.type.Storable) ∧
      (∀ k field, measureSchema.field? k = some field → ColumnSuits crowd k field.type) ∧
      ∃ e, Batch.ofRows measureSchema crowd = .error e ∧ CrowdedUnder "measure" e := by
  have hstorable : ∀ field ∈ measureSchema.fields, field.type.Storable := by decide +kernel
  have hsuits : ∀ k field, measureSchema.field? k = some field → ColumnSuits crowd k field.type := by
    intro k field hfield row hrow
    obtain rfl := List.eq_of_mem_replicate hrow
    match k, hfield with
    | 0, rfl => exact .union rfl (.scalar (.int 5))
  have hcrowd : ¬ColumnRoomy crowd 0 (.union [.primitive .int]) := by
    intro roomy
    cases roomy with
    | union places =>
      have hplaces := places 0
      rw [length_valuesOf, crowd, List.map_replicate, List.map_replicate] at hplaces
      exact Nat.not_succ_le_self _ (List.count_replicate_self.symm.trans_le hplaces)
  refine ⟨hstorable, hsuits, ?_⟩
  cases h : Batch.ofRows measureSchema crowd with
  | ok b => exact absurd ((exists_ofRows_iff hstorable).1 ⟨b, h⟩ 0 _ rfl).2 hcrowd
  | error e =>
    refine ⟨e, rfl, ?_⟩
    obtain ⟨k, field, hfield, hfault, -⟩ := fault_of_ofRows hstorable h
    obtain ⟨-, hmisfit⟩ | ⟨hcrowded, -⟩ := hfault
    · exact absurd (hsuits k field hfield) hmisfit
    · match k, hfield with
      | 0, rfl => exact hcrowded

end Batch

end Columnar

end ColumnScan
