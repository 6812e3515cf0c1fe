import ColumnScan.Proofs.Convert.Agreement
import ColumnScan.Proofs.Convert.Soundness

/-!
# A converter of its own for text

A factory that has a converter of its own for text columns, and is stock otherwise, builds the stock
converter of a type with its own converter in each place where the type is one of text. The two fail
alike part by part, so they fail alike on the whole, and a union dispatches to the same variant.
Restoring is stock. What is stored is the stock value with its text in upper case wherever it is
nested, if there is no map: there, keys may become equal that were different. Main statements:
`ConverterFactory.overridden_of_build`, what the factory builds; `Overridden.storesUpper` and
`Overridden.restoresSame`, how it converts; and `ConverterFactory.upperCasing_everywhere`.
-/

namespace ColumnScan

/-! ## Text in upper case -/

namespace Stored

mutual

/-- A stored value with the text of all text columns in it in upper case; maps are left as they are. -/
def upperCased : Stored → Stored
  | .scalar (.string s) => .scalar (.string (Text.uppercase s))
  | .struct children => .struct (upperCasedAll children)
  | .list items => .list (upperCasedAll items)
  | .union tag value => .union tag (upperCased value)
  | value => value

/-- Stored values with their text in upper case. -/
def upperCasedAll : List Stored → List Stored
  | [] => []
  | value :: rest => upperCased value :: upperCasedAll rest

end

theorem upperCasedAll_eq_map (values : List Stored) : upperCasedAll values = values.map upperCased := by
  induction values with
  | nil => rfl
  | cons value rest ih => rw [upperCasedAll, ih, List.map_cons]

end Stored

/-- No map is anywhere in the type. -/
def DataType.MapFree : DataType → Prop := Throughout fun part => ∀ key value, part ≠ .map key value

/-! ## Storing -/

namespace Converter

variable {plain : Prop} {d u : Converter} {ds us : List Converter}

/-- The second converter fails as the first one does, and stores the same with its text in upper case
if the columns are plain. -/
def StoresUpper (plain : Prop) (d u : Converter) : Prop :=
  ∀ n, FailAlike (fun s t => plain → t = s.upperCased) (d.toStored n) (u.toStored n)

theorem storesUpper_of_store
    (h : ∀ n, FailAlike (fun s t => plain → t = s.upperCased) (d.store n) (u.store n)) :
    StoresUpper plain d u := by
  intro n
  by_cases hnull : n = .null
  · subst hnull
    exact .ok fun _ => rfl
  · rw [toStored_of_ne_null d hnull, toStored_of_ne_null u hnull]
    exact h n

theorem storesUpper_string : StoresUpper plain (ofKind .string) ConverterFactory.upperCaseString := by
  apply storesUpper_of_store
  intro n
  cases n with
  | scalar x =>
    cases x with
    | string s => exact .ok fun _ => rfl
    | _ => exact .error _
  | _ => exact .error _

/-- Only text columns hold text that is not bounded. -/
theorem upperCased_of_admits {kind : Kind} {s : Stored} (h : kind.Admits s) (other : kind ≠ .string) :
    s.upperCased = s := by
  cases h with
  | string => exact absurd rfl other
  | _ => rfl

theorem storesUpper_ofKind {kind : Kind} (other : kind ≠ .string) :
    StoresUpper plain (ofKind kind) (ofKind kind) := by
  intro n
  cases h : (ofKind kind).toStored n with
  | error e => exact .error e
  | ok s =>
    refine .ok fun _ => ?_
    cases storesInto_ofKind kind n s h with
    | null => rfl
    | scalar hadmits => exact (upperCased_of_admits hadmits other).symm

theorem eq_upperCasedAll {ss ts : List Stored}
    (h : List.Forall₂ (fun s t => plain → t = s.upperCased) ss ts) (hplain : plain) :
    ts = Stored.upperCasedAll ss := by
  rw [Stored.upperCasedAll_eq_map]
  exact (map_eq_of_forall₂ h fun s _ t ht => (ht hplain).symm).symm

theorem storesUpper_struct (h : List.Forall₂ (StoresUpper plain) ds us) :
    StoresUpper plain (struct ds) (struct us) := by
  apply storesUpper_of_store
  intro n
  cases n with
  | list values =>
    simp only [struct, storeEach_eq_mapM, h.length_eq]
    split
    · have hparts : List.Forall₂ (fun p q => FailAlike (fun s t => plain → t = s.upperCased)
          (p.1.toStored p.2) (q.1.toStored q.2)) (ds.zip values) (us.zip values) :=
        forall₂_zip_left h (fun _ _ hdu v => hdu v) values
      exact (failAlike_mapM hparts).map fun ss ts hall hplain =>
        congrArg Stored.struct (eq_upperCasedAll hall hplain)
    · exact .error _
  | _ => exact .error _

theorem storesUpper_list (h : StoresUpper plain d u) : StoresUpper plain (list d) (list u) := by
  apply storesUpper_of_store
  intro n
  cases n with
  | list values =>
    simp only [list, storeAll_eq_mapM]
    have hitems : List.Forall₂ (fun v w => FailAlike (fun s t => plain → t = s.upperCased)
        (d.toStored v) (u.toStored w)) values values := List.forall₂_same.2 fun v _ => h v
    exact (failAlike_mapM hitems).map fun ss ts hall hplain =>
      congrArg Stored.list (eq_upperCasedAll hall hplain)
  | _ => exact .error _

/-- Maps fail alike; what they store is left open. -/
theorem storesUpper_map {k l v w : Converter} (mapped : ¬plain) (hkey : StoresUpper plain k l)
    (hvalue : StoresUpper plain v w) : StoresUpper plain (map k v) (map l w) := by
  apply storesUpper_of_store
  intro n
  cases n with
  | map entries =>
    simp only [map, storeEntries_eq_mapM]
    have hentries : List.Forall₂ (fun e f => FailAlike (fun _ _ => True) (storeEntry k v e)
        (storeEntry l w f)) entries entries := List.forall₂_same.2 fun e _ =>
      (hkey e.1).bind fun _ _ _ => (hvalue e.2).bind fun _ _ _ => .ok trivial
    exact (failAlike_mapM hentries).map fun _ _ _ hplain => absurd hplain mapped
  | _ => exact .error _

/-- A union dispatches to the same variant. -/
theorem failAlike_storeVariant (h : List.Forall₂ (StoresUpper plain) ds us) (n : Native) (tag : Nat) :
    FailAlike (fun s t => plain → t = s.upperCased) (storeVariant n tag ds) (storeVariant n tag us) := by
  induction h generalizing tag with
  | nil => exact .error _
  | @cons d u ds us hhead _ ih =>
    rw [storeVariant, storeVariant]
    split
    · exact .error _
    · have hfirst := hhead n
      generalize d.toStored n = x at hfirst ⊢
      generalize u.toStored n = y at hfirst ⊢
      cases hfirst with
      | error e =>
        -- One error decides for both whether the next variant is asked.
        cases hmismatch : e.isMismatch with
        | true => simpa [hmismatch] using ih (tag + 1)
        | false => simpa [hmismatch] using FailAlike.error e
      | ok related => exact .ok fun hplain => congrArg (Stored.union tag.toUInt8) (related hplain)

theorem storesUpper_union (h : List.Forall₂ (StoresUpper plain) ds us) :
    StoresUpper plain (union ds) (union us) :=
  storesUpper_of_store fun n => failAlike_storeVariant h n 0

/-! ## Restoring -/

/-- The second converter restores as the first one does. -/
def RestoresSame (d u : Converter) : Prop := u.restore = d.restore

theorem RestoresSame.toNative (h : RestoresSame d u) : u.toNative = d.toNative := by
  funext s
  cases s with
  | null => rfl
  | _ => exact congrFun h _

theorem restoreEach_congr (h : List.Forall₂ RestoresSame ds us) (values : List Stored) :
    restoreEach us values = restoreEach ds values := by
  induction h generalizing values with
  | nil => rfl
  | cons hhead _ ih =>
    cases values with
    | nil => rfl
    | cons v vs => rw [restoreEach, restoreEach, hhead.toNative, ih]

theorem restoresSame_struct (h : List.Forall₂ RestoresSame ds us) :
    RestoresSame (struct ds) (struct us) := by
  simp only [RestoresSame, struct, restoreEach_congr h, h.length_eq]

theorem restoresSame_list (h : RestoresSame d u) : RestoresSame (list d) (list u) := by
  simp only [RestoresSame, list, restoreAll_eq_mapM, h.toNative]

theorem restoresSame_map {k l v w : Converter} (hkey : RestoresSame k l) (hvalue : RestoresSame v w) :
    RestoresSame (map k v) (map l w) := by
  have hentry : restoreEntry l w = restoreEntry k v := by
    funext entry
    rw [restoreEntry, restoreEntry, hkey.toNative, hvalue.toNative]
  simp only [RestoresSame, map, restoreEntries_eq_mapM, hentry]

/-- The variant that a tag names restores the same. -/
theorem getElem?_toNative_congr (h : List.Forall₂ RestoresSame ds us) (i : Nat) :
    us[i]?.map Converter.toNative = ds[i]?.map Converter.toNative := by
  rw [← List.getElem?_map, ← List.getElem?_map,
    map_eq_map_of_forall₂ (h.imp fun _ _ hdu => hdu.toNative.symm)]

theorem restoresSame_union (h : List.Forall₂ RestoresSame ds us) :
    RestoresSame (union ds) (union us) := by
  funext s
  cases s with
  | union tag value =>
    have hnamed := getElem?_toNative_congr h tag.toNat
    simp only [union]
    cases hd : ds[tag.toNat]? with
    | none =>
      rw [hd, Option.map_none, Option.map_eq_none_iff] at hnamed
      rw [hnamed, h.length_eq]
    | some d =>
      rw [hd, Option.map_some, Option.map_eq_some_iff] at hnamed
      obtain ⟨u, hu, hsame⟩ := hnamed
      rw [hu]
      exact congrFun hsame value
  | _ => rfl

end Converter

/-! ## What the factory builds -/

open Converter

/-- The converter of a type with the factory's own converter in each place where text columns have the
stock one; a map occurs only if the columns are not plain. -/
inductive Overridden (plain : Prop) : Converter → Converter → Prop where
  | string : Overridden plain (.ofKind .string) ConverterFactory.upperCaseString
  | primitive {kind : Kind} (other : kind ≠ .string) : Overridden plain (.ofKind kind) (.ofKind kind)
  | struct {ds us : List Converter} (size : ds.length = us.length)
    (parts : ∀ p ∈ ds.zip us, Overridden plain p.1 p.2) : Overridden plain (.struct ds) (.struct us)
  | list {d u : Converter} (part : Overridden plain d u) : Overridden plain (.list d) (.list u)
  | map {k l v w : Converter} (mapped : ¬plain) (keys : Overridden plain k l)
    (values : Overridden plain v w) : Overridden plain (.map k v) (.map l w)
  | union {ds us : List Converter} (size : ds.length = us.length)
    (parts : ∀ p ∈ ds.zip us, Overridden plain p.1 p.2) : Overridden plain (.union ds) (.union us)

namespace Overridden

variable {plain : Prop} {d u : Converter}

theorem storesUpper (h : Overridden plain d u) : StoresUpper plain d u := by
  induction h with
  | string => exact storesUpper_string
  | primitive other => exact storesUpper_ofKind other
  | struct size _ ih => exact storesUpper_struct (List.forall₂_iff_zip.2 ⟨size, fun hp => ih _ hp⟩)
  | list _ ih => exact storesUpper_list ih
  | map mapped _ _ ihkey ihvalue => exact storesUpper_map mapped ihkey ihvalue
  | union size _ ih => exact storesUpper_union (List.forall₂_iff_zip.2 ⟨size, fun hp => ih _ hp⟩)

theorem restoresSame (h : Overridden plain d u) : RestoresSame d u := by
  induction h with
  | string | primitive => rfl
  | struct size _ ih => exact restoresSame_struct (List.forall₂_iff_zip.2 ⟨size, fun hp => ih _ hp⟩)
  | list _ ih => exact restoresSame_list ih
  | map _ _ _ ihkey ihvalue => exact restoresSame_map ihkey ihvalue
  | union size _ ih => exact restoresSame_union (List.forall₂_iff_zip.2 ⟨size, fun hp => ih _ hp⟩)

end Overridden

namespace ConverterFactory

variable {plain : Prop}

/-- Columns that are not text columns get the stock converter. -/
theorem build_upperCasing_primitive {kind : Kind} (other : kind ≠ .string) :
    upperCasing.build (.primitive kind) = stock.build (.primitive kind) := by
  rw [build, build]
  cases kind with
  | string => exact absurd rfl other
  | _ => rfl

mutual

/-- Where the stock factory builds a converter, the factory builds the same with its own for text. -/
theorem overridden_of_build {d : Converter} : (type : DataType) → (plain → type.MapFree) →
    stock.build type = .ok d → ∃ u, upperCasing.build type = .ok u ∧ Overridden plain d u
  | .primitive kind, _, h => by
    by_cases hkind : kind = .string
    · subst hkind
      cases h
      exact ⟨upperCaseString, rfl, .string⟩
    · refine ⟨d, (build_upperCasing_primitive hkind).trans h, ?_⟩
      obtain ⟨_, _, hd⟩ := bind_eq_ok_iff.1 h
      cases hd
      exact .primitive hkind
  | .struct fields, hplain, h => by
    obtain ⟨ds, hds, hd⟩ := bind_eq_ok_iff.1 h
    cases hd
    have hfields := fun hp => (DataType.throughout_struct.1 (hplain hp)).2
    obtain ⟨us, hus, hall⟩ := overridden_of_buildFields fields hfields hds
    obtain ⟨hsize, hall⟩ := List.forall₂_iff_zip.1 hall
    exact ⟨.struct us, bind_eq_ok_iff.2 ⟨us, hus, rfl⟩, .struct hsize fun _ hp => hall hp⟩
  | .list element, hplain, h => by
    obtain ⟨d, hd, h⟩ := bind_eq_ok_iff.1 h
    cases h
    have helement := fun hp => (DataType.throughout_list.1 (hplain hp)).2
    obtain ⟨u, hu, hdu⟩ := overridden_of_build element helement hd
    exact ⟨.list u, bind_eq_ok_iff.2 ⟨u, hu, rfl⟩, .list hdu⟩
  | .map key value, hplain, h => by
    obtain ⟨k, hk, h⟩ := bind_eq_ok_iff.1 h
    obtain ⟨v, hv, h⟩ := bind_eq_ok_iff.1 h
    cases h
    -- With a map in the type nothing is said about what is stored, so its parts may hold maps, too.
    have mapped : ¬plain := fun hp => (DataType.throughout_map.1 (hplain hp)).1 key value rfl
    obtain ⟨l, hl, hkl⟩ := overridden_of_build key (fun hp => absurd hp mapped) hk
    obtain ⟨w, hw, hvw⟩ := overridden_of_build value (fun hp => absurd hp mapped) hv
    exact ⟨.map l w, bind_eq_ok_iff.2 ⟨l, hl, bind_eq_ok_iff.2 ⟨w, hw, rfl⟩⟩, .map mapped hkl hvw⟩
  | .union variants, hplain, h => by
    obtain ⟨_, hcount, h⟩ := bind_eq_ok_iff.1 h
    obtain ⟨ds, hds, hd⟩ := bind_eq_ok_iff.1 h
    cases hd
    have hvariants := fun hp => (DataType.throughout_union.1 (hplain hp)).2
    obtain ⟨us, hus, hall⟩ := overridden_of_buildVariants variants hvariants hds
    obtain ⟨hsize, hall⟩ := List.forall₂_iff_zip.1 hall
    exact ⟨.union us, bind_eq_ok_iff.2 ⟨(), hcount, bind_eq_ok_iff.2 ⟨us, hus, rfl⟩⟩,
      .union hsize fun _ hp => hall hp⟩

theorem overridden_of_buildVariants {ds : List Converter} : (variants : List DataType) →
    (plain → ∀ type ∈ variants, type.MapFree) → stock.buildVariants variants = .ok ds →
      ∃ us, upperCasing.buildVariants variants = .ok us ∧ List.Forall₂ (Overridden plain) ds us
  | [], _, h => by
    cases h
    exact ⟨[], rfl, .nil⟩
  | type :: rest, hplain, h => by
    obtain ⟨d, hd, h⟩ := bind_eq_ok_iff.1 h
    obtain ⟨ds, hds, h⟩ := bind_eq_ok_iff.1 h
    cases h
    obtain ⟨u, hu, hdu⟩ := overridden_of_build type (fun hp => hplain hp _ List.mem_cons_self) hd
    obtain ⟨us, hus, hall⟩ := overridden_of_buildVariants rest
      (fun hp part hpart => hplain hp part (List.mem_cons_of_mem _ hpart)) hds
    exact ⟨u :: us, bind_eq_ok_iff.2 ⟨u, hu, bind_eq_ok_iff.2 ⟨us, hus, rfl⟩⟩, .cons hdu hall⟩

theorem overridden_of_buildFields {ds : List Converter} : (fields : List (Named DataType)) →
    (plain → ∀ field ∈ fields, field.type.MapFree) → stock.buildFields fields = .ok ds →
      ∃ us, upperCasing.buildFields fields = .ok us ∧ List.Forall₂ (Overridden plain) ds us
  | [], _, h => by
    cases h
    exact ⟨[], rfl, .nil⟩
  | ⟨_, type⟩ :: rest, hplain, h => by
    obtain ⟨d, hd, h⟩ := bind_eq_ok_iff.1 h
    obtain ⟨ds, hds, h⟩ := bind_eq_ok_iff.1 h
    cases h
    obtain ⟨u, hu, hdu⟩ := overridden_of_build type (fun hp => hplain hp _ List.mem_cons_self) hd
    obtain ⟨us, hus, hall⟩ := overridden_of_buildFields rest
      (fun hp part hpart => hplain hp part (List.mem_cons_of_mem _ hpart)) hds
    exact ⟨u :: us, bind_eq_ok_iff.2 ⟨u, hu, bind_eq_ok_iff.2 ⟨us, hus, rfl⟩⟩, .cons hdu hall⟩

end

/-- The factory with a converter of its own for text builds a converter for every valid type. It fails
on the values that the stock converter fails on, for the same reasons; it restores as the stock
converter does; and if there is no map in the type, it stores what the stock converter stores with the
text in upper case wherever it is. -/
theorem upperCasing_everywhere {type : DataType} (valid : type.validate = .ok ()) :
    ∃ d u, stock.build type = .ok d ∧ upperCasing.build type = .ok u ∧
      (∀ n e, u.toStored n = .error e ↔ d.toStored n = .error e) ∧
      (∀ s, u.toNative s = d.toNative s) ∧
      (type.MapFree → ∀ n, u.toStored n = (d.toStored n).map Stored.upperCased) := by
  obtain ⟨d, hd⟩ := exists_build_of_validate valid
  obtain ⟨u, hu, hdu⟩ : ∃ u, upperCasing.build type = .ok u ∧ Overridden type.MapFree d u :=
    overridden_of_build type id hd
  refine ⟨d, u, hd, hu, fun n e => (hdu.storesUpper n).eq_error_iff.symm,
    congrFun hdu.restoresSame.toNative, ?_⟩
  intro hfree n
  exact (hdu.storesUpper n).eq_map fun s t hst => hst hfree

/-- Text in a list, text that a union is asked to take for a decimal first, and bounded text. -/
def taggedNotes : DataType :=
  .struct [⟨"tags", .list (.primitive .string)⟩,
    ⟨"note", .union [.primitive (.decimal 5 2), .primitive .string]⟩, ⟨"code", .primitive (.char 2)⟩]

def loudNote : Native :=
  .list [.list [.scalar (.string "new"), .null], .scalar (.string "e1x"), .scalar (.string "abc")]

theorem upperCasing_everywhere_loudNote :
    ∃ u, upperCasing.build taggedNotes = .ok u ∧
      u.toStored loudNote = .ok (.struct [.list [.scalar (.string "NEW"), .null],
        .union 1 (.scalar (.string "E1X")), .char (.cut "abc" 2)]) ∧
      u.toNative (.map []) = .error (.mismatch (.stored (.map [])) .struct) := by
  have hfree : taggedNotes.MapFree := by
    simp [DataType.MapFree, DataType.Throughout, taggedNotes, DataType.nodes, DataType.nodesFields,
      DataType.nodesVariants]
  obtain ⟨d, u, hd, hu, _, hrestored, hstored⟩ := @upperCasing_everywhere taggedNotes rfl
  cases hd
  exact ⟨u, hu, (hstored hfree loudNote).trans rfl, (hrestored _).trans rfl⟩

end ConverterFactory

end ColumnScan
