import ColumnScan.Proofs.Convert.Stock

/-!
# Types that are refused

A type is refused when it is validated for the same reason as when its converter is built. Both walks
come down to one: the type and the types in it are checked each for itself, an outer type before the
types in it and from left to right, up to the first bad one. Main statements:
`DataType.validate_eq_forM`, `ConverterFactory.status_build` and `DataType.forM_check_eq_error_iff`.
-/

namespace ColumnScan

/-! ## What is wrong with a type itself -/

namespace DataType

/-- The bad parameter of a type, if it has one itself. -/
def fault? : DataType → Option TypeFault
  | .primitive kind => kind.fault?
  | .union variants =>
    if variants.length = 0 ∨ maxVariants < variants.length then some .variants else none
  | .struct _ | .list _ | .map .. => none

/-- Checks the parameters of a type, not those of the types in it. -/
def check (type : DataType) : Except SchemaError Unit :=
  match type.fault? with
  | some fault => .error (.invalidType type fault)
  | none => .ok ()

theorem check_eq_ok_iff {type : DataType} : type.check = .ok () ↔ type.fault? = none := by
  rw [check]
  cases type.fault? with
  | none => exact iff_of_true rfl rfl
  | some fault => exact iff_of_false nofun nofun

theorem check_eq_error_iff {type : DataType} {e : SchemaError} :
    type.check = .error e ↔ ∃ fault, type.fault? = some fault ∧ e = .invalidType type fault := by
  rw [check]
  cases type.fault? with
  | none => simp
  | some fault => simpa using eq_comm

theorem check_primitive (kind : Kind) : (primitive kind).check = kind.validate := rfl

theorem check_union (variants : List DataType) :
    (union variants).check = checkVariants variants := by
  rw [check, fault?, checkVariants]
  by_cases hcount : variants.length = 0 ∨ maxVariants < variants.length
  · rw [if_pos hcount, if_pos hcount]
  · rw [if_neg hcount, if_neg hcount]

/-- The error tells the first bad type and its fault. -/
theorem forM_check_eq_error_iff {types : List DataType} {e : SchemaError} :
    forM types check = .error e ↔ ∃ before bad after fault, types = before ++ bad :: after ∧
      (∀ type ∈ before, type.fault? = none) ∧ bad.fault? = some fault ∧
        e = .invalidType bad fault := by
  simp only [forM_eq_error_iff, check_eq_ok_iff, check_eq_error_iff]
  constructor
  · rintro ⟨before, bad, after, hsplit, hbefore, fault, hbad, he⟩
    exact ⟨before, bad, after, fault, hsplit, hbefore, hbad, he⟩
  · rintro ⟨before, bad, after, fault, hsplit, hbefore, hbad, he⟩
    exact ⟨before, bad, after, hsplit, hbefore, fault, hbad, he⟩

/-! ## Validation -/

mutual

/-- A type is validated by checking the types in it in their order, itself first. -/
theorem validate_eq_forM : (type : DataType) → type.validate = forM type.nodes check
  | .primitive kind => by
    rw [validate, nodes, List.forM_cons, check_primitive]
    cases kind.validate <;> rfl
  | .struct fields => validateFields_eq_forM fields
  | .list element => validate_eq_forM element
  | .map key value => by
    rw [validate, validate_eq_forM key, validate_eq_forM value, ← List.forM_append]
    rfl
  | .union variants => by
    rw [validate, validateVariants_eq_forM variants, ← check_union]
    rfl

theorem validateVariants_eq_forM :
    (variants : List DataType) → validateVariants variants = forM (nodesVariants variants) check
  | [] => rfl
  | type :: rest => by
    rw [validateVariants, nodesVariants, List.forM_append, validate_eq_forM type,
      validateVariants_eq_forM rest]

theorem validateFields_eq_forM :
    (fields : List (Named DataType)) → validateFields fields = forM (nodesFields fields) check
  | [] => rfl
  | ⟨_, type⟩ :: rest => by
    rw [validateFields, nodesFields, List.forM_append, validate_eq_forM type,
      validateFields_eq_forM rest]

end

theorem validate_of_validateFields {fields : List (Named DataType)}
    (h : validateFields fields = .ok ()) : ∀ field ∈ fields, field.type.validate = .ok () := by
  induction fields with
  | nil => exact List.forall_mem_nil _
  | cons field rest ih =>
    obtain ⟨hfirst, hrest⟩ := andThen_eq_ok_iff.1 h
    exact List.forall_mem_cons.2 ⟨hfirst, ih hrest⟩

theorem validate_of_validateVariants {variants : List DataType}
    (h : validateVariants variants = .ok ()) : ∀ type ∈ variants, type.validate = .ok () := by
  induction variants with
  | nil => exact List.forall_mem_nil _
  | cons type rest ih =>
    obtain ⟨hfirst, hrest⟩ := andThen_eq_ok_iff.1 h
    exact List.forall_mem_cons.2 ⟨hfirst, ih hrest⟩

end DataType

/-! ## Building -/

namespace ConverterFactory

open DataType

mutual

/-- The converter of a type is built by checking the types in it in their order, itself first. -/
theorem status_build : (type : DataType) → status (stock.build type) = forM type.nodes check
  | .primitive kind => by
    rw [← validate_eq_forM, validate, ← status_unit kind.validate]
    exact status_bind_pure kind.validate fun _ => Converter.ofKind kind
  | .struct fields => by
    have hfields := status_bind_pure (stock.buildFields fields) Converter.struct
    exact hfields.trans (status_buildFields fields)
  | .list element => by
    have helement := status_bind_pure (stock.build element) Converter.list
    exact helement.trans (status_build element)
  | .map key value => by
    have hvalue : ∀ k, status (stock.build value >>= fun v => pure (Converter.map k v)) =
        forM value.nodes check := fun k =>
      (status_bind_pure (stock.build value) (Converter.map k)).trans (status_build value)
    have hboth : status (stock.build (.map key value)) =
        status (stock.build key) >>= fun _ => forM value.nodes check := status_bind hvalue
    rw [hboth, status_build key, ← List.forM_append]
    rfl
  | .union variants => by
    have hvariants := status_bind_pure (stock.buildVariants variants) Converter.union
    have hboth : status (stock.build (.union variants)) =
        status (checkVariants variants) >>= fun _ => forM (nodesVariants variants) check :=
      status_bind fun _ => hvariants.trans (status_buildVariants variants)
    rw [hboth, status_unit, ← check_union]
    rfl

theorem status_buildVariants : (variants : List DataType) →
    status (stock.buildVariants variants) = forM (nodesVariants variants) check
  | [] => rfl
  | type :: rest => by
    rw [buildVariants, nodesVariants, List.forM_append, ← status_build type]
    exact status_bind fun c =>
      (status_bind_pure (stock.buildVariants rest) (c :: ·)).trans (status_buildVariants rest)

theorem status_buildFields : (fields : List (Named DataType)) →
    status (stock.buildFields fields) = forM (nodesFields fields) check
  | [] => rfl
  | ⟨_, type⟩ :: rest => by
    rw [buildFields, nodesFields, List.forM_append, ← status_build type]
    exact status_bind fun c =>
      (status_bind_pure (stock.buildFields rest) (c :: ·)).trans (status_buildFields rest)

end

/-- Building a converter fails as validating its type does. -/
theorem status_build_eq_validate (type : DataType) :
    status (stock.build type) = type.validate := by
  rw [status_build, validate_eq_forM]

theorem exists_build_iff {type : DataType} :
    (∃ c, stock.build type = .ok c) ↔ type.validate = .ok () := by
  rw [← status_eq_ok_iff, status_build_eq_validate]

/-- A type without a bad parameter has a stock converter. -/
theorem exists_build_of_validate {type : DataType} (h : type.validate = .ok ()) :
    ∃ c, stock.build type = .ok c :=
  exists_build_iff.2 h

theorem build_eq_error_iff {type : DataType} {e : SchemaError} :
    stock.build type = .error e ↔ type.validate = .error e := by
  rw [← status_eq_error_iff, status_build_eq_validate]

end ConverterFactory

end ColumnScan
