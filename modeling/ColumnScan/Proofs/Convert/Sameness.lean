import ColumnScan.Proofs.Convert.Parts
import ColumnScan.Proofs.Convert.Stock
import ColumnScan.Proofs.Value.Entries
import ColumnScan.Proofs.Value.Order

/-!
# Conversion does not tell the same values apart

Decimals that stand for one number are the same value but need not be equal, and so are values that
differ in nothing but such decimals. Every stock converter stores the same values as equal ones and
restores the same values as the same ones, so no entry of a map is lost because two keys are told
apart on one side only. Main statements: `Stock.storesAlike` and `Stock.restoresAlike`.
-/

namespace ColumnScan

/-! ## What a union sees of a result -/

/-- The value of a result, or whether it is the kind of a value that was refused. -/
def outcome {α : Type} (r : Except ConvertError α) : Except Bool α := r.mapError (·.isMismatch)

section

variable {α β γ : Type}

theorem outcome_bind_congr {x y : Except ConvertError α} {f g : α → Except ConvertError β}
    (h : outcome x = outcome y) (hfg : ∀ a, outcome (f a) = outcome (g a)) :
    outcome (x >>= f) = outcome (y >>= g) := by
  cases x with
  | error e =>
    cases y with
    | error e' => exact congrArg Except.error (Except.error.inj h)
    | ok b => cases h
  | ok a =>
    cases y with
    | error e' => cases h
    | ok b =>
      obtain rfl := Except.ok.inj h
      exact hfg a

theorem outcome_map_congr {x y : Except ConvertError α} (f : α → β) (h : outcome x = outcome y) :
    outcome (x.map f) = outcome (y.map f) :=
  outcome_bind_congr (f := fun a => .ok (f a)) (g := fun a => .ok (f a)) h fun _ => rfl

theorem outcome_mapM_congr {f : α → Except ConvertError γ} {g : β → Except ConvertError γ}
    {as : List α} {bs : List β} (h : List.Forall₂ (fun a b => outcome (f a) = outcome (g b)) as bs) :
    outcome (as.mapM f) = outcome (bs.mapM g) := by
  induction h with
  | nil => rfl
  | cons hhead _ ih =>
    rw [List.mapM_cons, List.mapM_cons]
    exact outcome_bind_congr hhead fun a => outcome_bind_congr ih fun rest => rfl

theorem eq_ok_of_outcome_eq {x y : Except ConvertError α} {a : α} (h : outcome x = outcome y)
    (hx : x = .ok a) : y = .ok a := by
  rw [hx] at h
  exact mapError_eq_ok_iff.1 h.symm

end

namespace Converter

/-! ## Storing -/

/-- The same values are stored as equal ones, or refused for like reasons. -/
def StoresAlike (c : Converter) : Prop :=
  ∀ m n, m.cmp n = .eq → outcome (c.toStored m) = outcome (c.toStored n)

theorem storesAlike_of_store {c : Converter}
    (h : ∀ m n, m.cmp n = .eq → outcome (c.store m) = outcome (c.store n)) : c.StoresAlike := by
  intro m n hmn
  by_cases hm : m = .null
  · subst hm
    cases Native.alike_of_cmp hmn
    rfl
  · have hn : n ≠ .null := by
      rintro rfl
      cases Native.alike_of_cmp hmn
      exact hm rfl
    rw [toStored_of_ne_null c hm, toStored_of_ne_null c hn]
    exact h m n hmn

theorem StoresAlike.eq_of_cmp {c : Converter} (h : c.StoresAlike) {m n : Native} {s t : Stored}
    (hs : c.toStored m = .ok s) (ht : c.toStored n = .ok t) (hmn : m.cmp n = .eq) : s = t := by
  have hn := eq_ok_of_outcome_eq (h m n hmn) hs
  rw [ht] at hn
  exact (Except.ok.inj hn).symm

theorem fitDecimal?_congr {d e : Decimal} (h : d.cmp e = .eq) (precision scale : UInt8) :
    fitDecimal? precision scale d = fitDecimal? precision scale e := by
  rw [fitDecimal?, fitDecimal?, Decimal.rescale_congr h]

theorem storesAlike_ofKind (kind : Kind) : (ofKind kind).StoresAlike := by
  apply storesAlike_of_store
  intro m n h
  cases Native.alike_of_cmp h with
  | refl => rfl
  | decimal h =>
    cases kind with
    | decimal precision scale =>
      simp only [ofKind, decimal, decimalOf?, fitDecimal?_congr h]
      split <;> rfl
    | _ => rfl
  | list | map => cases kind <;> rfl

theorem StoresAlike.struct {cs : List Converter} (h : ∀ c ∈ cs, c.StoresAlike) :
    (Converter.struct cs).StoresAlike := by
  apply storesAlike_of_store
  intro m n hmn
  cases Native.alike_of_cmp hmn with
  | refl | decimal | map => rfl
  | list hitems =>
    simp only [Converter.struct, hitems.length_eq]
    split
    next =>
      apply outcome_map_congr
      rw [storeEach_eq_mapM, storeEach_eq_mapM]
      exact outcome_mapM_congr (forall₂_zip_of_forall₂ hitems fun c hc => h c hc)
    next => rfl

theorem StoresAlike.list {c : Converter} (h : c.StoresAlike) : (Converter.list c).StoresAlike := by
  apply storesAlike_of_store
  intro m n hmn
  cases Native.alike_of_cmp hmn with
  | refl | decimal | map => rfl
  | list hitems =>
    apply outcome_map_congr
    rw [storeAll_eq_mapM, storeAll_eq_mapM]
    exact outcome_mapM_congr (hitems.imp h)

theorem StoresAlike.map {key value : Converter} (hkey : key.StoresAlike)
    (hvalue : value.StoresAlike) : (Converter.map key value).StoresAlike := by
  apply storesAlike_of_store
  intro m n hmn
  cases Native.alike_of_cmp hmn with
  | refl | decimal | list => rfl
  | map hentries =>
    apply outcome_map_congr
    rw [storeEntries_eq_mapM, storeEntries_eq_mapM]
    apply outcome_mapM_congr
    apply hentries.imp
    intro p q hpq
    apply outcome_bind_congr (hkey _ _ hpq.1)
    intro k
    exact outcome_bind_congr (hvalue _ _ hpq.2) fun v => rfl

theorem outcome_storeVariant_congr {cs : List Converter} {m n : Native} {tag : Nat}
    (h : ∀ c ∈ cs, outcome (c.toStored m) = outcome (c.toStored n)) :
    outcome (storeVariant m tag cs) = outcome (storeVariant n tag cs) := by
  induction cs generalizing tag with
  | nil => rfl
  | cons c cs ih =>
    obtain ⟨hc, hcs⟩ := List.forall_mem_cons.1 h
    rw [storeVariant, storeVariant]
    split
    · rfl
    · -- Only whether the kind was refused decides if the next variant is tried.
      cases hm : c.toStored m with
      | ok t => rw [eq_ok_of_outcome_eq hc hm]
      | error e =>
        cases hn : c.toStored n with
        | ok t => rw [eq_ok_of_outcome_eq hc.symm hn] at hm; cases hm
        | error e' =>
          rw [hm, hn] at hc
          have he : e.isMismatch = e'.isMismatch := Except.error.inj hc
          dsimp only
          rw [he]
          split
          · exact ih hcs
          · exact hc

theorem StoresAlike.union {cs : List Converter} (h : ∀ c ∈ cs, c.StoresAlike) :
    (Converter.union cs).StoresAlike :=
  storesAlike_of_store fun m n hmn => outcome_storeVariant_congr fun c hc => h c hc m n hmn

/-! ## Restoring -/

/-- The same values are restored as the same ones. -/
def RestoresAlike (c : Converter) : Prop :=
  ∀ s t m, s.cmp t = .eq → c.toNative s = .ok m → ∃ n, c.toNative t = .ok n ∧ m.cmp n = .eq

theorem restoresAlike_of_restore {c : Converter}
    (h : ∀ s t m, s.cmp t = .eq → c.restore s = .ok m → ∃ n, c.restore t = .ok n ∧ m.cmp n = .eq) :
    c.RestoresAlike := by
  intro s t m hst hm
  by_cases hs : s = .null
  · subst hs
    cases Stored.alike_of_cmp hst
    exact ⟨m, hm, Std.ReflCmp.compare_self⟩
  · have ht : t ≠ .null := by
      rintro rfl
      cases Stored.alike_of_cmp hst
      exact hs rfl
    rw [toNative_of_ne_null c hs] at hm
    rw [toNative_of_ne_null c ht]
    exact h s t m hst hm

theorem RestoresAlike.cmp_of_cmp {c : Converter} (h : c.RestoresAlike) {s t : Stored} {m n : Native}
    (hm : c.toNative s = .ok m) (hn : c.toNative t = .ok n) (hst : s.cmp t = .eq) :
    m.cmp n = .eq := by
  rcases h s t m hst hm with ⟨n', hn', hmn⟩
  rw [hn] at hn'
  rw [Except.ok.inj hn']
  exact hmn

theorem restoresAlike_ofKind (kind : Kind) : (ofKind kind).RestoresAlike := by
  apply restoresAlike_of_restore
  intro s t m h hm
  cases Stored.alike_of_cmp h with
  | refl => exact ⟨m, hm, Std.ReflCmp.compare_self⟩
  | decimal h =>
    cases kind with
    | decimal precision scale =>
      cases hm
      exact ⟨_, rfl, h⟩
    | _ => cases hm
  | struct | list | map | union => cases kind <;> cases hm

theorem RestoresAlike.struct {cs : List Converter} (h : ∀ c ∈ cs, c.RestoresAlike) :
    (Converter.struct cs).RestoresAlike := by
  apply restoresAlike_of_restore
  intro s t m hst hm
  cases Stored.alike_of_cmp hst with
  | refl => exact ⟨m, hm, Std.ReflCmp.compare_self⟩
  | decimal | list | map | union => cases hm
  | @struct as bs hitems =>
    simp only [Converter.struct, restoreEach_eq_mapM, hitems.length_eq] at hm ⊢
    by_cases hsize : bs.length = cs.length
    · rw [if_pos hsize] at hm ⊢
      obtain ⟨vs, hvs, rfl⟩ := map_eq_ok_iff.1 hm
      have hsteps : List.Forall₂ (fun p q : Converter × Stored => ∀ v, p.1.toNative p.2 = .ok v →
          ∃ w, q.1.toNative q.2 = .ok w ∧ v.cmp w = .eq) (cs.zip as) (cs.zip bs) :=
        forall₂_zip_of_forall₂ hitems fun c hc a b hab v => h c hc a b v hab
      obtain ⟨ws, hws, hvws⟩ := exists_mapM_of_forall₂ hsteps hvs
      exact ⟨_, map_eq_ok_iff.2 ⟨ws, hws, rfl⟩, Native.compares_cmp.items_eq_eq_iff.2 hvws⟩
    · rw [if_neg hsize] at hm
      cases hm

theorem RestoresAlike.list {c : Converter} (h : c.RestoresAlike) :
    (Converter.list c).RestoresAlike := by
  apply restoresAlike_of_restore
  intro s t m hst hm
  cases Stored.alike_of_cmp hst with
  | refl => exact ⟨m, hm, Std.ReflCmp.compare_self⟩
  | decimal | struct | map | union => cases hm
  | list hitems =>
    simp only [Converter.list, restoreAll_eq_mapM] at hm ⊢
    obtain ⟨vs, hvs, rfl⟩ := map_eq_ok_iff.1 hm
    obtain ⟨ws, hws, hvws⟩ := exists_mapM_of_forall₂ (hitems.imp fun a b hab x => h a b x hab) hvs
    exact ⟨_, map_eq_ok_iff.2 ⟨ws, hws, rfl⟩, Native.compares_cmp.items_eq_eq_iff.2 hvws⟩

theorem RestoresAlike.map {key value : Converter} (hkey : key.RestoresAlike)
    (hvalue : value.RestoresAlike) : (Converter.map key value).RestoresAlike := by
  apply restoresAlike_of_restore
  intro s t m hst hm
  cases Stored.alike_of_cmp hst with
  | refl => exact ⟨m, hm, Std.ReflCmp.compare_self⟩
  | decimal | struct | list | union => cases hm
  | map hentries =>
    simp only [Converter.map, restoreEntries_eq_mapM] at hm ⊢
    obtain ⟨es, hes, rfl⟩ := map_eq_ok_iff.1 hm
    have hsteps := hentries.imp fun p q hpq =>
      show ∀ e, restoreEntry key value p = .ok e →
          ∃ f, restoreEntry key value q = .ok f ∧ e.1.cmp f.1 = .eq ∧ e.2.cmp f.2 = .eq by
        intro e he
        obtain ⟨hk, hv⟩ := restoreEntry_eq_ok_iff.1 he
        obtain ⟨k, hk, hek⟩ := hkey _ _ _ hpq.1 hk
        obtain ⟨v, hv, hev⟩ := hvalue _ _ _ hpq.2 hv
        exact ⟨(k, v), restoreEntry_eq_ok_iff.2 ⟨hk, hv⟩, hek, hev⟩
    obtain ⟨fs, hfs, hefs⟩ := exists_mapM_of_forall₂ hsteps hes
    refine ⟨_, map_eq_ok_iff.2 ⟨fs, hfs, rfl⟩, ?_⟩
    apply Native.compares_cmp.entries_eq_eq_iff.2
    exact Entries.forall₂_ofList (R := fun v w : Native => v.cmp w = .eq) hefs

theorem RestoresAlike.union {cs : List Converter} (h : ∀ c ∈ cs, c.RestoresAlike) :
    (Converter.union cs).RestoresAlike := by
  apply restoresAlike_of_restore
  intro s t m hst hm
  cases Stored.alike_of_cmp hst with
  | refl => exact ⟨m, hm, Std.ReflCmp.compare_self⟩
  | decimal | struct | list | map => cases hm
  | union hvalue =>
    simp only [Converter.union] at hm ⊢
    split at hm
    next c hc => exact h c (List.mem_of_getElem? hc) _ _ _ hvalue hm
    next => cases hm

end Converter

/-! ## All stock converters -/

namespace Stock

theorem storesAlike {type : DataType} {c : Converter} (h : Stock type c) : c.StoresAlike := by
  induction h with
  | primitive kind => exact Converter.storesAlike_ofKind kind
  | struct size _ ih =>
    apply Converter.StoresAlike.struct
    intro c hc
    obtain ⟨field, _, hpart⟩ := exists_mem_zip size hc
    exact ih (field, c) hpart
  | list _ ih => exact ih.list
  | map _ _ ihk ihv => exact ihk.map ihv
  | union size _ ih =>
    apply Converter.StoresAlike.union
    intro c hc
    obtain ⟨type, _, hpart⟩ := exists_mem_zip size hc
    exact ih (type, c) hpart

theorem restoresAlike {type : DataType} {c : Converter} (h : Stock type c) : c.RestoresAlike := by
  induction h with
  | primitive kind => exact Converter.restoresAlike_ofKind kind
  | struct size _ ih =>
    apply Converter.RestoresAlike.struct
    intro c hc
    obtain ⟨field, _, hpart⟩ := exists_mem_zip size hc
    exact ih (field, c) hpart
  | list _ ih => exact ih.list
  | map _ _ ihk ihv => exact ihk.map ihv
  | union size _ ih =>
    apply Converter.RestoresAlike.union
    intro c hc
    obtain ⟨type, _, hpart⟩ := exists_mem_zip size hc
    exact ih (type, c) hpart

end Stock

end ColumnScan
