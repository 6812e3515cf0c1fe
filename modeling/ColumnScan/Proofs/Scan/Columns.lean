import ColumnScan.Proofs.Positions
import ColumnScan.Proofs.Schema.Lookup
import ColumnScan.Proofs.Text.CaseFold
import ColumnScan.Scan.Plan

/-!
# The columns of a scan

Which columns a scan reads depends on three schemas: that of the scan, that of the columns asked for
and that of the source. Whatever they are, the columns read are found by the same names in the schema
of the scan and in that of the source, and they are those asked for and those that the leaves look
at. Main statements: `ScanPlan.readFields_spec`, the columns in the schema of the scan;
`ColumnProjection.ofRequest_eq_ok`, the columns in that of the source.
-/

namespace ColumnScan

open StructType (key Has)

/-! ## Columns asked for -/

theorem selectColumns_eq_ok {schema requested : StructType} {columns : List String}
    (h : selectColumns schema columns = .ok requested) :
    List.Forall₂ (fun column field => ∃ i, schema.lookup? column = some (i, field)) columns
      requested.fields := by
  obtain ⟨fields, hfields, h⟩ := bind_eq_ok_iff.1 h
  obtain ⟨_, rfl⟩ := StructType.ofFields_eq_ok_iff.1 (mapError_eq_ok_iff.1 h)
  apply (mapM_eq_ok_iff.1 hfields).imp
  intro column field hfield
  split at hfield
  next i other hother =>
    cases hfield
    exact ⟨i, hother⟩
  next => cases hfield

/-- The columns that are found have the names asked for, case aside. -/
theorem map_lowercase_of_selectColumns {schema requested : StructType} {columns : List String}
    (h : selectColumns schema columns = .ok requested) :
    columns.map Text.lowercase = requested.fields.map key := by
  apply map_eq_map_of_forall₂ ((selectColumns_eq_ok h).imp _)
  rintro column field ⟨i, hi⟩
  exact (StructType.lookupKey?_eq_some hi).2.2.symm

/-- Nor are two of them the same. -/
theorem nodup_of_selectColumns {schema requested : StructType} {columns : List String}
    (h : selectColumns schema columns = .ok requested) : (columns.map Text.lowercase).Nodup := by
  rw [map_lowercase_of_selectColumns h]
  exact requested.distinct

namespace ScanPlan

variable {p : ScanPlan} {resolved requested : StructType}

/-- The names of the columns asked for. -/
def askedNames (p : ScanPlan) (resolved : StructType) : List String :=
  match p.config.columns with
  | some columns => columns
  | none => resolved.names

theorem mem_keys_requested_iff (h : p.requested resolved = .ok requested) (k : String) :
    k ∈ requested.fields.map key ↔ k ∈ (p.askedNames resolved).map Text.lowercase := by
  unfold ScanPlan.requested at h
  unfold askedNames
  cases hcolumns : p.config.columns with
  | some columns =>
    rw [hcolumns] at h
    show k ∈ requested.fields.map key ↔ k ∈ columns.map Text.lowercase
    rw [map_lowercase_of_selectColumns (mapError_eq_ok_iff.1 h)]
  | none =>
    rw [hcolumns] at h
    cases h
    show k ∈ resolved.fields.map key ↔ k ∈ resolved.names.map Text.lowercase
    rw [StructType.names, List.map_map]
    rfl

/-- The columns asked for are found in the schema of the scan. -/
theorem has_of_mem_requested (h : p.requested resolved = .ok requested) :
    ∀ field ∈ requested.fields, resolved.Has field := by
  intro field hfield
  rw [ScanPlan.requested] at h
  split at h
  next columns _ =>
    obtain ⟨column, _, i, hi⟩ := exists_mem_of_forall₂
      (selectColumns_eq_ok (mapError_eq_ok_iff.1 h)).flip field hfield
    exact StructType.has_of_lookup? hi
  next =>
    cases h
    exact StructType.has_of_mem hfield

/-! ## Columns that the leaves look at -/

/-- The columns read once leaves look at some names: those from before come first, the others are in
the schema of the scan, and the names are those from before and those looked at. -/
structure Extends (resolved : StructType) (names : List String) (fields more : List Field) : Prop where
  pre : fields <+: more
  has : ∀ field ∈ more, field ∈ fields ∨ resolved.Has field
  keys : ∀ k, k ∈ more.map key ↔ k ∈ fields.map key ∨ k ∈ names.map Text.lowercase

theorem extends_withLeaf {leaf : Leaf} {i : Nat} {field : Field} (fields : List Field)
    (h : resolved.lookup? leaf.column = some (i, field)) :
    Extends resolved [leaf.column] fields (withLeaf resolved fields leaf) := by
  have hkey : key field = Text.lowercase leaf.column := (StructType.lookupKey?_eq_some h).2.2
  rw [withLeaf]
  split
  next hany =>
    refine ⟨List.prefix_rfl, fun _ hg => .inl hg, ?_⟩
    intro k
    constructor
    · exact .inl
    rintro (hk | hk)
    · exact hk
    · -- The column is there, by a name that differs in the case of letters at most.
      obtain ⟨g, hg, hsame⟩ := List.any_eq_true.1 hany
      obtain rfl := List.mem_singleton.1 hk
      rw [← Text.lowercase_eq_of_equalIgnoringAsciiCase hsame]
      exact List.mem_map_of_mem hg
  next =>
    rw [h]
    refine ⟨List.prefix_append fields [field], ?_, ?_⟩
    · intro g hg
      rcases List.mem_append.1 hg with hg | hg
      · exact .inl hg
      · obtain rfl := List.mem_singleton.1 hg
        exact .inr (StructType.has_of_lookup? h)
    · intro k
      rw [List.map_append, List.mem_append, List.map_singleton, List.map_singleton, hkey]

theorem extends_foldl_withLeaf {leaves : List Leaf} {fields : List Field}
    (hleaves : ∀ leaf ∈ leaves, ∃ i field, resolved.lookup? leaf.column = some (i, field)) :
    Extends resolved (leaves.map (·.column)) fields (leaves.foldl (withLeaf resolved) fields) := by
  induction leaves generalizing fields with
  | nil => exact ⟨List.prefix_rfl, fun _ hg => .inl hg, fun k => by simp⟩
  | cons leaf leaves ih =>
    obtain ⟨⟨i, field, hleaf⟩, hrest⟩ := List.forall_mem_cons.1 hleaves
    have hstep := extends_withLeaf fields hleaf
    have hmore : Extends resolved (leaves.map (·.column)) (withLeaf resolved fields leaf)
        (leaves.foldl (withLeaf resolved) (withLeaf resolved fields leaf)) := ih hrest
    refine ⟨hstep.pre.trans hmore.pre, ?_, ?_⟩
    · intro g hg
      rcases hmore.has g hg with hg | hg
      · exact hstep.has g hg
      · exact .inr hg
    · intro k
      rw [List.foldl_cons, hmore.keys, hstep.keys, or_assoc, ← List.mem_append, ← List.map_append]
      rfl

/-- The names of the columns that the leaves look at. -/
def leafNames (argument? : Option SearchArgument) : List String :=
  match argument? with
  | some argument => argument.leaves.map (·.column)
  | none => []

theorem extends_readFields {argument? : Option SearchArgument}
    (hleaves : ∀ name ∈ leafNames argument?, ∃ i field, resolved.lookup? name = some (i, field)) :
    Extends resolved (leafNames argument?) requested.fields
      (readFields resolved requested argument?) := by
  cases argument? with
  | none => exact ⟨List.prefix_rfl, fun _ hg => .inl hg, fun k => by simp [readFields, leafNames]⟩
  | some argument =>
    exact extends_foldl_withLeaf fun leaf hleaf => hleaves _ (List.mem_map_of_mem hleaf)

/-- Every column read is the one that the schema of the scan has by that name, and the names are
those asked for and those that the leaves look at. -/
theorem readFields_spec {argument? : Option SearchArgument} {read : StructType}
    (hrequested : p.requested resolved = .ok requested)
    (hleaves : ∀ name ∈ leafNames argument?, ∃ i field, resolved.lookup? name = some (i, field))
    (hread : StructType.ofFields (readFields resolved requested argument?) = .ok read) :
    (∀ field ∈ read.fields, resolved.Has field) ∧
      ∀ k, k ∈ read.fields.map key ↔
        k ∈ (p.askedNames resolved ++ leafNames argument?).map Text.lowercase := by
  obtain ⟨_, hfields⟩ := StructType.ofFields_eq_ok_iff.1 hread
  have hextends : Extends resolved (leafNames argument?) requested.fields
      (readFields resolved requested argument?) := extends_readFields hleaves
  rw [hfields]
  constructor
  · intro field hfield
    rcases hextends.has field hfield with h | h
    · exact has_of_mem_requested hrequested field h
    · exact h
  · intro k
    rw [hextends.keys, mem_keys_requested_iff hrequested, ← List.mem_append, ← List.map_append]

end ScanPlan

/-! ## Columns of the source -/

namespace ColumnProjection

variable {actual : StructType} {mode : ProjectionMode}

/-- What is found of some columns: positions of the source where they are, each of the type that was
asked for. -/
structure Locates (actual : StructType) (fields : List Field) (old new : Located) : Prop where
  ordinals : ∀ i, i ∈ new.ordinals ↔
    i ∈ old.ordinals ∨ ∃ field ∈ fields, actual.indexOf? field.name = some i
  types : ∀ field ∈ fields, ∀ i other, actual.lookup? field.name = some (i, other) →
    other.type = field.type

theorem locates_locate {field : Field} {old new : Located}
    (h : locate actual mode old field = .ok new) : Locates actual [field] old new := by
  unfold locate at h
  split at h
  next i other hfound =>
    obtain ⟨hindex, _, _⟩ := StructType.lookupKey?_eq_some hfound
    have hindex : actual.indexOf? field.name = some i := hindex
    split at h
    next htype =>
      cases h
      constructor
      · intro j
        simp [hindex, eq_comm]
      · intro g hg j other' hother
        obtain rfl := List.mem_singleton.1 hg
        rw [hfound] at hother
        cases hother
        exact htype
    next => cases h
  next hmissing =>
    have hindex : actual.indexOf? field.name = none :=
      StructType.indexOfKey?_eq_none_of_lookupKey? hmissing
    split at h
    · cases h
    · cases h
      constructor
      · intro j
        simp [hindex]
      · intro g hg j other' hother
        obtain rfl := List.mem_singleton.1 hg
        rw [hmissing] at hother
        cases hother

theorem locates_foldlM {fields : List Field} {old new : Located}
    (h : fields.foldlM (locate actual mode) old = .ok new) : Locates actual fields old new := by
  induction fields generalizing old with
  | nil =>
    rw [List.foldlM_nil, pure_eq_ok_iff] at h
    obtain rfl := h
    exact ⟨fun i => by simp, nofun⟩
  | cons field rest ih =>
    rw [List.foldlM_cons, bind_eq_ok_iff] at h
    rcases h with ⟨mid, hmid, h⟩
    have hfirst := locates_locate hmid
    have hrest := ih h
    constructor
    · intro i
      rw [hrest.ordinals, hfirst.ordinals, or_assoc]
      simp
    · rw [List.forall_mem_cons]
      exact ⟨hfirst.types field List.mem_cons_self, hrest.types⟩

/-- The positions that are read are those of the columns that the source has, which are of the type
asked for. -/
theorem ofRequest_eq_ok {read : StructType} {projection : ColumnProjection}
    (h : ofRequest read actual mode = .ok projection) :
    (∀ i, i ∈ projection.ordinals ↔ ∃ field ∈ read.fields, actual.indexOf? field.name = some i) ∧
      ∀ field ∈ read.fields, ∀ i other, actual.lookup? field.name = some (i, other) →
        other.type = field.type := by
  obtain ⟨found, hfound, h⟩ := bind_eq_ok_iff.1 h
  obtain rfl := pure_eq_ok_iff.1 h
  have hlocates := locates_foldlM hfound
  refine ⟨?_, hlocates.types⟩
  intro i
  rw [mem_ascending, hlocates.ordinals]
  exact or_iff_right List.not_mem_nil

end ColumnProjection

end ColumnScan
