import ColumnScan.Convert.Factory
import ColumnScan.Proofs.Companions
import ColumnScan.Proofs.Outcome

/-!
# The stock converters

`Stock type c` says that `c` is the converter that the stock factory builds for a type, by the shape
of the type: what holds of all stock converters is proved by induction on it. Types, too, are looked
at through one notion, the list of a type and all types in it. Main statement:
`ConverterFactory.stock_of_build`, whatever is built is a stock converter.
-/

namespace ColumnScan

/-! ## The types in a type -/

namespace DataType

mutual

/-- The type and all types in it. -/
def nodes : DataType → List DataType
  | .primitive kind => [.primitive kind]
  | .struct fields => .struct fields :: nodesFields fields
  | .list element => .list element :: element.nodes
  | .map key value => .map key value :: (key.nodes ++ value.nodes)
  | .union variants => .union variants :: nodesVariants variants

/-- The types of variants and all types in them. -/
def nodesVariants : List DataType → List DataType
  | [] => []
  | type :: rest => type.nodes ++ nodesVariants rest

/-- The types of fields and all types in them. -/
def nodesFields : List (Named DataType) → List DataType
  | [] => []
  | ⟨_, type⟩ :: rest => type.nodes ++ nodesFields rest

end

theorem mem_nodes_self (type : DataType) : type ∈ type.nodes := by
  cases type <;> simp [nodes]

theorem nodesVariants_eq_flatMap (variants : List DataType) :
    nodesVariants variants = variants.flatMap nodes :=
  eq_flatMap variants

theorem nodesFields_eq_flatMap (fields : List (Named DataType)) :
    nodesFields fields = fields.flatMap fun field => field.type.nodes :=
  eq_flatMap fields

/-- Whatever is in a part of a type is in the type. -/
theorem nodes_subset_struct {fields : List (Named DataType)} {field : Named DataType}
    (h : field ∈ fields) : field.type.nodes ⊆ (struct fields).nodes := by
  rw [nodes, nodesFields_eq_flatMap]
  exact List.subset_cons_of_subset _ (subset_flatMap_of_mem (fun f : Named DataType => f.type.nodes) h)

theorem nodes_subset_list (element : DataType) : element.nodes ⊆ (list element).nodes :=
  List.subset_cons_self ..

theorem nodes_subset_map (key value : DataType) :
    key.nodes ⊆ (map key value).nodes ∧ value.nodes ⊆ (map key value).nodes :=
  List.append_subset.1 (List.subset_cons_self ..)

theorem nodes_subset_union {variants : List DataType} {type : DataType} (h : type ∈ variants) :
    type.nodes ⊆ (union variants).nodes := by
  rw [nodes, nodesVariants_eq_flatMap]
  exact List.subset_cons_of_subset _ (subset_flatMap_of_mem nodes h)

/-- The type and all types in it have the property. -/
def Throughout (P : DataType → Prop) (type : DataType) : Prop := ∀ part ∈ type.nodes, P part

variable {P : DataType → Prop}

theorem throughout_primitive {kind : Kind} :
    Throughout P (.primitive kind) ↔ P (.primitive kind) :=
  List.forall_mem_singleton

theorem throughout_struct {fields : List (Named DataType)} :
    Throughout P (.struct fields) ↔
      P (.struct fields) ∧ ∀ field ∈ fields, Throughout P field.type := by
  simp only [Throughout, nodes, nodesFields_eq_flatMap, List.forall_mem_cons, List.mem_flatMap]
  exact and_congr_right fun _ => ⟨fun h f hf t ht => h t ⟨f, hf, ht⟩,
    fun h t ⟨f, hf, ht⟩ => h f hf t ht⟩

theorem throughout_list {element : DataType} :
    Throughout P (.list element) ↔ P (.list element) ∧ Throughout P element :=
  List.forall_mem_cons

theorem throughout_map {key value : DataType} :
    Throughout P (.map key value) ↔ P (.map key value) ∧ Throughout P key ∧ Throughout P value := by
  simp only [Throughout, nodes, List.forall_mem_cons, List.forall_mem_append]

theorem throughout_union {variants : List DataType} :
    Throughout P (.union variants) ↔
      P (.union variants) ∧ ∀ type ∈ variants, Throughout P type := by
  simp only [Throughout, nodes, nodesVariants_eq_flatMap, List.forall_mem_cons, List.mem_flatMap]
  exact and_congr_right fun _ => ⟨fun h f hf t ht => h t ⟨f, hf, ht⟩,
    fun h t ⟨f, hf, ht⟩ => h f hf t ht⟩

end DataType

/-! ## Valid parameters -/

/-- The parameters of a valid decimal kind. -/
theorem Kind.decimal_of_validate {precision scale : UInt8}
    (h : (Kind.decimal precision scale).validate = .ok ()) :
    0 < precision.toNat ∧ precision.toNat ≤ maxPrecision ∧ scale.toNat ≤ precision.toNat := by
  simp only [Kind.validate, Kind.fault?] at h
  split_ifs at h with hprecision hscale
  obtain ⟨hzero, hmax⟩ := not_or.1 hprecision
  exact ⟨Nat.pos_of_ne_zero hzero, Nat.le_of_not_lt hmax, Nat.le_of_not_lt hscale⟩

/-- The scale of a valid decimal kind is not negative when its eight bits are read with a sign. -/
theorem Kind.toInt_scale_of_validate {precision scale : UInt8}
    (h : (Kind.decimal precision scale).validate = .ok ()) : scale.toInt8.toInt = scale.toNat := by
  obtain ⟨_, hprecision, hscale⟩ := decimal_of_validate h
  rw [maxPrecision] at hprecision
  have hsign : 2 * scale.toInt8.toBitVec.toNat < 2 ^ 8 := by
    show 2 * scale.toNat < 2 ^ 8
    omega
  exact BitVec.toInt_eq_toNat_of_lt hsign

/-! ## The converters by the shape of their types -/

/-- The stock converter of a type. -/
inductive Stock : DataType → Converter → Prop where
  | primitive (kind : Kind) : Stock (.primitive kind) (.ofKind kind)
  | struct {fields : List (Named DataType)} {cs : List Converter} (size : fields.length = cs.length)
    (parts : ∀ p ∈ fields.zip cs, Stock p.1.type p.2) : Stock (.struct fields) (.struct cs)
  | list {element : DataType} {c : Converter} (part : Stock element c) :
    Stock (.list element) (.list c)
  | map {key value : DataType} {k v : Converter} (keys : Stock key k) (values : Stock value v) :
    Stock (.map key value) (.map k v)
  | union {variants : List DataType} {cs : List Converter} (size : variants.length = cs.length)
    (parts : ∀ p ∈ variants.zip cs, Stock p.1 p.2) : Stock (.union variants) (.union cs)

namespace ConverterFactory

mutual

/-- What the stock factory builds is the stock converter. -/
theorem stock_of_build {c : Converter} : {type : DataType} → stock.build type = .ok c →
    Stock type c
  | .primitive kind, h => by
    simp only [build, stock, bind_eq_ok_iff, pure_eq_ok_iff] at h
    rcases h with ⟨_, _, rfl⟩
    exact .primitive kind
  | .struct fields, h => by
    simp only [build, stock, bind_eq_ok_iff, pure_eq_ok_iff] at h
    rcases h with ⟨cs, hcs, rfl⟩
    obtain ⟨hsize, hparts⟩ := List.forall₂_iff_zip.1 (stock_of_buildFields hcs)
    exact .struct hsize fun _ hp => hparts hp
  | .list element, h => by
    simp only [build, stock, bind_eq_ok_iff, pure_eq_ok_iff] at h
    rcases h with ⟨c, hc, rfl⟩
    exact .list (stock_of_build hc)
  | .map key value, h => by
    simp only [build, stock, bind_eq_ok_iff, pure_eq_ok_iff] at h
    rcases h with ⟨k, hk, v, hv, rfl⟩
    exact .map (stock_of_build hk) (stock_of_build hv)
  | .union variants, h => by
    simp only [build, stock, bind_eq_ok_iff, pure_eq_ok_iff] at h
    rcases h with ⟨_, _, cs, hcs, rfl⟩
    obtain ⟨hsize, hparts⟩ := List.forall₂_iff_zip.1 (stock_of_buildVariants hcs)
    exact .union hsize fun _ hp => hparts hp

theorem stock_of_buildVariants {cs : List Converter} : {variants : List DataType} →
    stock.buildVariants variants = .ok cs → List.Forall₂ Stock variants cs
  | [], h => by
    cases h
    exact .nil
  | type :: rest, h => by
    simp only [buildVariants, bind_eq_ok_iff, pure_eq_ok_iff] at h
    rcases h with ⟨c, hc, cs, hcs, rfl⟩
    exact .cons (stock_of_build hc) (stock_of_buildVariants hcs)

theorem stock_of_buildFields {cs : List Converter} : {fields : List (Named DataType)} →
    stock.buildFields fields = .ok cs → List.Forall₂ (fun field c => Stock field.type c) fields cs
  | [], h => by
    cases h
    exact .nil
  | ⟨_, type⟩ :: rest, h => by
    simp only [buildFields, bind_eq_ok_iff, pure_eq_ok_iff] at h
    rcases h with ⟨c, hc, cs, hcs, rfl⟩
    exact .cons (stock_of_build hc) (stock_of_buildFields hcs)

end

theorem stock_build_primitive {kind : Kind} (h : kind.validate = .ok ()) :
    stock.build (.primitive kind) = .ok (.ofKind kind) := by
  rw [build, stock, h]
  rfl

end ConverterFactory

end ColumnScan
