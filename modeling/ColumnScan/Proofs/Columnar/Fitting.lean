import ColumnScan.Columnar.Check
import ColumnScan.Proofs.Outcome
import Mathlib.Data.List.Flatten

/-!
# Columns that take values

A column is checked as a whole, part by part over all of its values. What the check tells of each value
is `Fits`, what it tells of all of them together is `Roomy`, and the rest of it is about the type alone:
so of a column that was taken every value fits and the values have room, and a type that one column was
taken for takes any other values that fit and have room. Main statements: `fits_of_check`,
`roomy_of_check`, `check_of_fits`.
-/

namespace ColumnScan.Columnar

/-- Neither null nor a map. -/
def isNoMap : Stored → Bool
  | .null | .map _ => false
  | _ => true

/-- A value, and every value inside it, has the form that the type asks for. -/
inductive Fits : DataType → Stored → Prop where
  | scalar {kind : Kind} {v : Stored} (form : isMisfit kind v = false) : Fits (.primitive kind) v
  | struct {fields : List (Named DataType)} {v : Stored} (form : isNoStruct v = false)
    (parts : ∀ i field, fields[i]? = some field → Fits field.type (childAt i v)) :
    Fits (.struct fields) v
  | list {element : DataType} {v : Stored} (form : isNoList v = false)
    (parts : ∀ item ∈ itemsIn v, Fits element item) : Fits (.list element) v
  | map {key value : DataType} {v : Stored} (form : isNoMap v = false)
    (solid : ∀ e ∈ entriesIn v, isHollow e.1 = false) (keys : ∀ e ∈ entriesIn v, Fits key e.1)
    (values : ∀ e ∈ entriesIn v, Fits value e.2) : Fits (.map key value) v
  | union {variants : List DataType} {v : Stored} (room : variants.length ≠ maxArrayVariants)
    (form : isNoVariant variants.length v = false)
    (part : ∀ variant, variants[(partOf v).1]? = some variant → Fits variant (partOf v).2) :
    Fits (.union variants) v

/-- No variant of a union has more values than its array has places for them, in the column itself and
in every part of it, where the values of a part are those in all values of the column. -/
inductive Roomy : DataType → List Stored → Prop where
  | scalar (kind : Kind) (values : List Stored) : Roomy (.primitive kind) values
  | struct {fields : List (Named DataType)} {values : List Stored}
    (parts : ∀ i field, fields[i]? = some field → Roomy field.type (childrenAt i values)) :
    Roomy (.struct fields) values
  | list {element : DataType} {values : List Stored} (items : Roomy element (itemsOf values)) :
    Roomy (.list element) values
  | map {key value : DataType} {maps : List Stored}
    (keys : Roomy key ((entriesOf maps).map (·.1)))
    (values : Roomy value ((entriesOf maps).map (·.2))) : Roomy (.map key value) maps
  | union {variants : List DataType} {values : List Stored}
    (places : ∀ i, (valuesOf i values).length ≤ maxVariantValues)
    (parts : ∀ i variant, variants[i]? = some variant → Roomy variant (valuesOf i values)) :
    Roomy (.union variants) values

variable {path : String} {values : List Stored}

/-! ## One step of the check -/

theorem ite_error_eq_ok_iff {ε : Type} {c : Prop} [Decidable c] {e : ε} :
    (if c then Except.error e else pure ()) = Except.ok () ↔ ¬c := by
  by_cases h : c
  · rw [if_pos h]
    exact ⟨nofun, fun hn => absurd h hn⟩
  · rw [if_neg h]
    exact ⟨fun _ => h, fun _ => rfl⟩

theorem refuseFirst_eq_ok_iff {type : DataType} {bad : Stored → Bool} :
    refuseFirst path type bad values = .ok () ↔ ∀ v ∈ values, bad v = false := by
  unfold refuseFirst
  split
  next v hv =>
    have hbad : bad v = true := List.find?_some hv
    have hmem : v ∈ values := List.mem_of_find?_eq_some hv
    exact ⟨nofun, fun h => absurd hbad (Bool.eq_false_iff.1 (h v hmem))⟩
  next hv =>
    have hnone := List.find?_eq_none.1 hv
    exact ⟨fun _ v hmem => Bool.eq_false_iff.2 (hnone v hmem), fun _ => rfl⟩

theorem checkMaps_eq_ok_iff {key type : DataType} : checkMaps path key type values = .ok () ↔
    ∀ v ∈ values, isNoMap v = false ∧ ∀ e ∈ entriesIn v, e.1.isNull = false := by
  induction values with
  | nil => exact ⟨fun _ => nofun, fun _ => rfl⟩
  | cons v values ih =>
    rw [List.forall_mem_cons, ← ih]
    cases v with
    | null => exact ⟨fun h => ⟨⟨rfl, nofun⟩, h⟩, fun h => h.2⟩
    | map entries =>
      rw [checkMaps, bind_eq_ok_iff]
      constructor
      · rintro ⟨_, hkeys, hrest⟩
        rw [refuseFirst_eq_ok_iff, List.forall_mem_map] at hkeys
        exact ⟨⟨rfl, hkeys⟩, hrest⟩
      · rintro ⟨⟨_, hkeys⟩, hrest⟩
        exact ⟨(), refuseFirst_eq_ok_iff.2 (List.forall_mem_map.2 hkeys), hrest⟩
    | _ => exact ⟨nofun, fun h => Bool.noConfusion h.1.1⟩

theorem check_primitive_iff {kind : Kind} : check path values (.primitive kind) = .ok () ↔
    (∀ v ∈ values, isMisfit kind v = false) ∧ isArrayKind kind = true := by
  rw [check, andThen_eq_ok_iff, refuseFirst_eq_ok_iff, ite_error_eq_ok_iff, Bool.not_eq_true,
    Bool.not_eq_eq_eq_not, Bool.not_false]

theorem check_struct_iff {fields : List (Named DataType)} :
    check path values (.struct fields) = .ok () ↔
      fields.isEmpty = false ∧ (∀ v ∈ values, isNoStruct v = false) ∧
        checkFields path values 0 fields = .ok () := by
  rw [check]
  split
  next h =>
    rw [h]
    exact ⟨nofun, fun heq => Bool.noConfusion heq.1⟩
  next h =>
    rw [andThen_eq_ok_iff, refuseFirst_eq_ok_iff]
    exact ⟨fun hrest => ⟨Bool.eq_false_iff.2 h, hrest⟩, fun hall => hall.2⟩

theorem check_list_iff {element : DataType} : check path values (.list element) = .ok () ↔
    (∀ v ∈ values, isNoList v = false) ∧ check (path ++ "[]") (itemsOf values) element = .ok () := by
  rw [check, andThen_eq_ok_iff, refuseFirst_eq_ok_iff]

theorem isNull_of_isHollow {v : Stored} (h : isHollow v = false) : v.isNull = false := by
  cases v <;> first | rfl | cases h

theorem check_map_iff {key value : DataType} : check path values (.map key value) = .ok () ↔
    (∀ v ∈ values, isNoMap v = false ∧ ∀ e ∈ entriesIn v, isHollow e.1 = false) ∧
      check (path ++ ".key") ((entriesOf values).map (·.1)) key = .ok () ∧
        check (path ++ ".value") ((entriesOf values).map (·.2)) value = .ok () := by
  have hsolid : ¬(entriesOf values).any (isHollow ·.1) = true ↔
      ∀ v ∈ values, ∀ e ∈ entriesIn v, isHollow e.1 = false := by
    rw [Bool.not_eq_true, List.any_eq_false, entriesOf]
    simp only [List.mem_flatMap, Bool.not_eq_true]
    exact ⟨fun h v hv e he => h e ⟨v, hv, he⟩, fun h e ⟨v, hv, he⟩ => h v hv e he⟩
  simp only [check, andThen_eq_ok_iff, checkMaps_eq_ok_iff, ite_error_eq_ok_iff, hsolid]
  constructor
  · rintro ⟨hmaps, hkeys, hvalues, hsolid⟩
    exact ⟨fun v hv => ⟨(hmaps v hv).1, hsolid v hv⟩, hkeys, hvalues⟩
  · rintro ⟨hmaps, hkeys, hvalues⟩
    -- A null key is hollow, so that the keys need not be looked at twice.
    exact ⟨fun v hv => ⟨(hmaps v hv).1, fun e he => isNull_of_isHollow ((hmaps v hv).2 e he)⟩, hkeys,
      hvalues, fun v hv => (hmaps v hv).2⟩

/-- The variants taken before count as if their values stood in front. -/
theorem checkUnions_eq_ok_iff {variants : List DataType} {taken : List Nat}
    (room : ∀ i, taken.count i ≤ maxVariantValues) : checkUnions path variants taken values = .ok () ↔
      (∀ v ∈ values, isNoVariant variants.length v = false) ∧
        ∀ i, taken.count i + (values.map fun v => (partOf v).1).count i ≤ maxVariantValues := by
  induction values generalizing taken with
  | nil => exact ⟨fun _ => ⟨nofun, room⟩, fun _ => rfl⟩
  | cons v values ih =>
    have hcons : ∀ i, ((partOf v).1 :: taken).count i + (values.map fun v => (partOf v).1).count i =
        taken.count i + ((v :: values).map fun v => (partOf v).1).count i := by
      intro i
      rw [List.map_cons, List.count_cons, List.count_cons]
      omega
    rw [checkUnions, List.forall_mem_cons]
    split
    next hform => exact ⟨nofun, fun h => absurd hform (Bool.eq_false_iff.1 h.1.1)⟩
    next hform =>
      split
      next hfull =>
        refine ⟨nofun, fun h => absurd (h.2 (partOf v).1) (Nat.not_le_of_lt ?_)⟩
        rw [List.map_cons, List.count_cons_self]
        omega
      next hplace =>
        rw [ih fun i => ?_]
        · simp only [hcons]
          exact ⟨fun h => ⟨⟨Bool.eq_false_iff.2 hform, h.1⟩, h.2⟩, fun h => ⟨h.1.2, h.2⟩⟩
        · rw [List.count_cons]
          have hi := room i
          split
          next heq =>
            obtain rfl := beq_iff_eq.1 heq
            omega
          next => exact hi

theorem check_union_iff {variants : List DataType} : check path values (.union variants) = .ok () ↔
    ((∀ v ∈ values, isNoVariant variants.length v = false) ∧
      ∀ i, (valuesOf i values).length ≤ maxVariantValues) ∧
      checkVariantValues path values 0 variants = .ok () ∧ variants.length ≠ maxArrayVariants := by
  rw [check, andThen_eq_ok_iff, andThen_eq_ok_iff, ite_error_eq_ok_iff,
    checkUnions_eq_ok_iff fun i => Nat.zero_le _]
  simp only [List.count_nil, Nat.zero_add, length_valuesOf]

theorem checkFields_cons_iff {index : Nat} {field : Named DataType} {rest : List (Named DataType)} :
    checkFields path values index (field :: rest) = .ok () ↔
      check (path ++ "." ++ field.name) (childrenAt index values) field.type = .ok () ∧
        checkFields path values (index + 1) rest = .ok () := by
  rw [checkFields, andThen_eq_ok_iff]

theorem checkVariantValues_cons_iff {index : Nat} {type : DataType} {rest : List DataType} :
    checkVariantValues path values index (type :: rest) = .ok () ↔
      check (path ++ "<" ++ toString index ++ ">") (valuesOf index values) type = .ok () ∧
        checkVariantValues path values (index + 1) rest = .ok () := by
  rw [checkVariantValues, andThen_eq_ok_iff]

theorem mem_valuesOf {index : Nat} {part : Stored} :
    part ∈ valuesOf index values ↔ ∃ v ∈ values, partOf v = (index, part) := by
  simp only [valuesOf, List.mem_filterMap, List.mem_map, exists_exists_and_eq_and]
  constructor
  · rintro ⟨v, hv, h⟩
    obtain ⟨hindex, hpart⟩ := Option.ite_none_right_eq_some.1 h
    exact ⟨v, hv, Prod.ext hindex (Option.some.inj hpart)⟩
  · rintro ⟨v, hv, h⟩
    exact ⟨v, hv, by rw [h]; exact if_pos rfl⟩

/-! ## Values of a column that was taken -/

mutual

theorem fits_of_check (type : DataType) {path : String} {values : List Stored}
    (h : check path values type = .ok ()) {v : Stored} (hv : v ∈ values) : Fits type v := by
  cases type with
  | primitive kind => exact .scalar ((check_primitive_iff.1 h).1 v hv)
  | struct fields =>
    obtain ⟨_, hform, hfields⟩ := check_struct_iff.1 h
    refine .struct (hform v hv) fun i field hfield => ?_
    have hpart := fits_of_checkFields fields hfields hv hfield
    rwa [Nat.zero_add] at hpart
  | list element =>
    obtain ⟨hform, hitems⟩ := check_list_iff.1 h
    exact .list (hform v hv) fun item hitem =>
      fits_of_check element hitems (List.mem_flatMap_of_mem hv hitem)
  | map key value =>
    obtain ⟨hmaps, hkeys, hvalues⟩ := check_map_iff.1 h
    obtain ⟨hform, hsolid⟩ := hmaps v hv
    have hmem : ∀ e ∈ entriesIn v, e ∈ entriesOf values := fun e he => List.mem_flatMap_of_mem hv he
    exact .map hform hsolid (fun e he => fits_of_check key hkeys (List.mem_map_of_mem (hmem e he)))
      fun e he => fits_of_check value hvalues (List.mem_map_of_mem (hmem e he))
  | union variants =>
    obtain ⟨⟨hform, _⟩, hvariants, hroom⟩ := check_union_iff.1 h
    exact .union hroom (hform v hv) fun variant hvariant =>
      fits_of_checkVariantValues variants hvariants hv hvariant (Nat.zero_add _).symm

theorem fits_of_checkFields (fields : List (Named DataType)) {path : String} {values : List Stored}
    {index : Nat} (h : checkFields path values index fields = .ok ()) {v : Stored} (hv : v ∈ values)
    {i : Nat} {field : Named DataType} (hfield : fields[i]? = some field) :
    Fits field.type (childAt (index + i) v) := by
  cases fields with
  | nil => cases hfield
  | cons first rest =>
    obtain ⟨hfirst, hrest⟩ := checkFields_cons_iff.1 h
    obtain ⟨_, type⟩ := first
    cases i with
    | zero =>
      cases hfield
      exact fits_of_check type hfirst (List.mem_map_of_mem hv)
    | succ i =>
      rw [Nat.add_comm i, ← Nat.add_assoc]
      exact fits_of_checkFields rest hrest hv hfield

theorem fits_of_checkVariantValues (variants : List DataType) {path : String} {values : List Stored}
    {index : Nat} (h : checkVariantValues path values index variants = .ok ()) {v : Stored}
    (hv : v ∈ values) {i : Nat} {variant : DataType} (hvariant : variants[i]? = some variant)
    (hi : (partOf v).1 = index + i) : Fits variant (partOf v).2 := by
  cases variants with
  | nil => cases hvariant
  | cons first rest =>
    obtain ⟨hfirst, hrest⟩ := checkVariantValues_cons_iff.1 h
    cases i with
    | zero =>
      obtain rfl : first = variant := Option.some.inj hvariant
      exact fits_of_check first hfirst (mem_valuesOf.2 ⟨v, hv, Prod.ext hi rfl⟩)
    | succ i =>
      rw [Nat.add_comm i, ← Nat.add_assoc] at hi
      exact fits_of_checkVariantValues rest hrest hv hvariant hi

end

mutual

theorem roomy_of_check (type : DataType) {path : String} {values : List Stored}
    (h : check path values type = .ok ()) : Roomy type values := by
  cases type with
  | primitive kind => exact .scalar kind values
  | struct fields =>
    refine .struct fun i field hfield => ?_
    have hpart := roomy_of_checkFields fields (check_struct_iff.1 h).2.2 hfield
    rwa [Nat.zero_add] at hpart
  | list element => exact .list (roomy_of_check element (check_list_iff.1 h).2)
  | map key value =>
    obtain ⟨_, hkeys, hvalues⟩ := check_map_iff.1 h
    exact .map (roomy_of_check key hkeys) (roomy_of_check value hvalues)
  | union variants =>
    obtain ⟨⟨_, hplaces⟩, hvariants, _⟩ := check_union_iff.1 h
    refine .union hplaces fun i variant hvariant => ?_
    have hpart := roomy_of_checkVariantValues variants hvariants hvariant
    rwa [Nat.zero_add] at hpart

theorem roomy_of_checkFields (fields : List (Named DataType)) {path : String} {values : List Stored}
    {index : Nat} (h : checkFields path values index fields = .ok ()) {i : Nat}
    {field : Named DataType} (hfield : fields[i]? = some field) :
    Roomy field.type (childrenAt (index + i) values) := by
  cases fields with
  | nil => cases hfield
  | cons first rest =>
    obtain ⟨hfirst, hrest⟩ := checkFields_cons_iff.1 h
    obtain ⟨_, type⟩ := first
    cases i with
    | zero =>
      cases hfield
      exact roomy_of_check type hfirst
    | succ i =>
      rw [Nat.add_comm i, ← Nat.add_assoc]
      exact roomy_of_checkFields rest hrest hfield

theorem roomy_of_checkVariantValues (variants : List DataType) {path : String} {values : List Stored}
    {index : Nat} (h : checkVariantValues path values index variants = .ok ()) {i : Nat}
    {variant : DataType} (hvariant : variants[i]? = some variant) :
    Roomy variant (valuesOf (index + i) values) := by
  cases variants with
  | nil => cases hvariant
  | cons first rest =>
    obtain ⟨hfirst, hrest⟩ := checkVariantValues_cons_iff.1 h
    cases i with
    | zero =>
      obtain rfl : first = variant := Option.some.inj hvariant
      exact roomy_of_check first hfirst
    | succ i =>
      rw [Nat.add_comm i, ← Nat.add_assoc]
      exact roomy_of_checkVariantValues rest hrest hvariant

end

/-! ## Parts of a column whose values fit -/

section

variable {fields : List (Named DataType)} {element key value : DataType} {variants : List DataType}

theorem fits_childrenAt (fits : ∀ v ∈ values, Fits (.struct fields) v) {i : Nat}
    {field : Named DataType} (hfield : fields[i]? = some field) :
    ∀ child ∈ childrenAt i values, Fits field.type child := by
  refine List.forall_mem_map.2 fun v hv => ?_
  cases fits v hv with
  | struct _ parts => exact parts i field hfield

theorem fits_itemsOf (fits : ∀ v ∈ values, Fits (.list element) v) :
    ∀ item ∈ itemsOf values, Fits element item := by
  intro item hitem
  obtain ⟨v, hv, hitem⟩ := List.mem_flatMap.1 hitem
  cases fits v hv with
  | list _ parts => exact parts item hitem

theorem fits_entriesOf (fits : ∀ v ∈ values, Fits (.map key value) v) :
    ∀ e ∈ entriesOf values, Fits key e.1 ∧ Fits value e.2 := by
  intro e he
  obtain ⟨v, hv, he⟩ := List.mem_flatMap.1 he
  cases fits v hv with
  | map _ _ keys values => exact ⟨keys e he, values e he⟩

theorem fits_valuesOf (fits : ∀ v ∈ values, Fits (.union variants) v) {i : Nat} {variant : DataType}
    (hvariant : variants[i]? = some variant) : ∀ part ∈ valuesOf i values, Fits variant part := by
  intro part hpart
  obtain ⟨v, hv, heq⟩ := mem_valuesOf.1 hpart
  cases fits v hv with
  | union _ _ part =>
    rw [heq] at part
    exact part variant hvariant

end

/-! ## Other values of the type -/

mutual

theorem check_of_fits (type : DataType) {path path' : String} {values values' : List Stored}
    (h : check path values type = .ok ()) (fits : ∀ v ∈ values', Fits type v)
    (roomy : Roomy type values') : check path' values' type = .ok () := by
  cases roomy with
  | scalar kind =>
    refine check_primitive_iff.2 ⟨fun v hv => ?_, (check_primitive_iff.1 h).2⟩
    cases fits v hv with
    | scalar form => exact form
  | @struct fields _ parts =>
    obtain ⟨hsome, _, hfields⟩ := check_struct_iff.1 h
    refine check_struct_iff.2 ⟨hsome, fun v hv => ?_, ?_⟩
    · cases fits v hv with
      | struct form => exact form
    · refine checkFields_of_fits fields hfields fun i field hfield => ?_
      rw [Nat.zero_add]
      exact ⟨fits_childrenAt fits hfield, parts i field hfield⟩
  | @list element _ items =>
    obtain ⟨_, hitems⟩ := check_list_iff.1 h
    refine check_list_iff.2 ⟨fun v hv => ?_, check_of_fits element hitems (fits_itemsOf fits) items⟩
    cases fits v hv with
    | list form => exact form
  | @map key value _ keys values =>
    obtain ⟨_, hkeys, hvalues⟩ := check_map_iff.1 h
    have hentries := fits_entriesOf fits
    refine check_map_iff.2 ⟨fun v hv => ?_,
      check_of_fits key hkeys (List.forall_mem_map.2 fun e he => (hentries e he).1) keys,
      check_of_fits value hvalues (List.forall_mem_map.2 fun e he => (hentries e he).2) values⟩
    cases fits v hv with
    | map form solid => exact ⟨form, solid⟩
  | @union variants _ places parts =>
    obtain ⟨_, hvariants, hroom⟩ := check_union_iff.1 h
    refine check_union_iff.2 ⟨⟨fun v hv => ?_, places⟩, ?_, hroom⟩
    · cases fits v hv with
      | union _ form => exact form
    · refine checkVariantValues_of_fits variants hvariants fun i variant hvariant => ?_
      rw [Nat.zero_add]
      exact ⟨fits_valuesOf fits hvariant, parts i variant hvariant⟩

theorem checkFields_of_fits (fields : List (Named DataType)) {path path' : String}
    {values values' : List Stored} {index : Nat} (h : checkFields path values index fields = .ok ())
    (parts : ∀ i field, fields[i]? = some field →
      (∀ child ∈ childrenAt (index + i) values', Fits field.type child) ∧
        Roomy field.type (childrenAt (index + i) values')) :
    checkFields path' values' index fields = .ok () := by
  cases fields with
  | nil => rfl
  | cons first rest =>
    obtain ⟨hfirst, hrest⟩ := checkFields_cons_iff.1 h
    obtain ⟨name, type⟩ := first
    obtain ⟨fits, roomy⟩ := parts 0 ⟨name, type⟩ rfl
    refine checkFields_cons_iff.2 ⟨check_of_fits type hfirst fits roomy, ?_⟩
    refine checkFields_of_fits rest hrest fun i field hfield => ?_
    rw [Nat.add_assoc, Nat.add_comm 1]
    exact parts (i + 1) field hfield

theorem checkVariantValues_of_fits (variants : List DataType) {path path' : String}
    {values values' : List Stored} {index : Nat}
    (h : checkVariantValues path values index variants = .ok ())
    (parts : ∀ i variant, variants[i]? = some variant →
      (∀ part ∈ valuesOf (index + i) values', Fits variant part) ∧
        Roomy variant (valuesOf (index + i) values')) :
    checkVariantValues path' values' index variants = .ok () := by
  cases variants with
  | nil => rfl
  | cons first rest =>
    obtain ⟨hfirst, hrest⟩ := checkVariantValues_cons_iff.1 h
    obtain ⟨fits, roomy⟩ := parts 0 first rfl
    refine checkVariantValues_cons_iff.2 ⟨check_of_fits first hfirst fits roomy, ?_⟩
    refine checkVariantValues_of_fits rest hrest fun i variant hvariant => ?_
    rw [Nat.add_assoc, Nat.add_comm 1]
    exact parts (i + 1) variant hvariant

end

/-! ## Fewer values -/

/-- Fewer values have room whenever more do. -/
theorem Roomy.of_sublist {type : DataType} {values values' : List Stored} (h : Roomy type values)
    (hsub : values'.Sublist values) : Roomy type values' := by
  induction h generalizing values' with
  | scalar kind => exact .scalar kind values'
  | struct _ ih => exact .struct fun i field hfield => ih i field hfield (hsub.map _)
  | list _ ih => exact .list (ih (hsub.flatMap _))
  | map _ _ ihkeys ihvalues =>
    have hentries := hsub.flatMap entriesIn
    exact .map (ihkeys (hentries.map _)) (ihvalues (hentries.map _))
  | union places _ ih =>
    have hparts (i : Nat) := (hsub.map partOf).filterMap
      fun part : Nat × Stored => if part.1 = i then some part.2 else none
    exact .union (fun i => Nat.le_trans (hparts i).length_le (places i))
      fun i variant hvariant => ih i variant hvariant (hparts i)

end ColumnScan.Columnar
