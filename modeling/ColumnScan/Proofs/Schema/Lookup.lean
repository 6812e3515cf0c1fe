import ColumnScan.Proofs.Outcome
import ColumnScan.Schema.StructType
import Mathlib.Data.List.Nodup

/-!
# Looking names up

A name is looked up by its lower-case form, and what is found has that form. Since the names of a struct
are different, every field is found by its own name; fields whose names are not different make no struct,
and the first bad name is reported. Main statements: `lookupKey?_eq_some`, `exists_lookupKey?`,
`has_of_mem` and `ofFields_eq_error_iff`.
-/

namespace ColumnScan.StructType

variable {s : StructType} {k : String} {i : Nat} {f : Field}

/-- What is found stands at the position that is found and has the name looked for. -/
theorem lookupKey?_eq_some (h : s.lookupKey? k = some (i, f)) :
    s.indexOfKey? k = some i ∧ s.fields[i]? = some f ∧ key f = k := by
  simp only [lookupKey?, Option.bind_eq_bind, Option.bind_eq_some_iff, Option.pure_def,
    Option.some.injEq, Prod.mk.injEq] at h
  rcases h with ⟨i, hi, f, hf, rfl, rfl⟩
  obtain ⟨hlt, hkey, _⟩ := List.findIdx?_eq_some_iff_getElem.1 hi
  refine ⟨hi, hf, ?_⟩
  obtain ⟨_, rfl⟩ := List.getElem?_eq_some_iff.1 hf
  exact eq_of_beq hkey

/-- Exactly the names that some field has are found. -/
theorem exists_lookupKey? (hf : f ∈ s.fields) (hkey : key f = k) :
    ∃ i g, s.lookupKey? k = some (i, g) := by
  have hfound : (s.indexOfKey? k).isSome = true := by
    rw [indexOfKey?, List.findIdx?_isSome, List.any_eq_true]
    exact ⟨f, hf, by rw [hkey]; exact beq_self_eq_true k⟩
  obtain ⟨i, hi⟩ := Option.isSome_iff_exists.1 hfound
  obtain ⟨hlt, _, _⟩ := List.findIdx?_eq_some_iff_getElem.1 hi
  refine ⟨i, s.fields[i], ?_⟩
  rw [lookupKey?, hi]
  simp [field?, hlt]

theorem indexOfKey?_eq_none_of_lookupKey? (h : s.lookupKey? k = none) : s.indexOfKey? k = none := by
  rw [indexOfKey?, List.findIdx?_eq_none_iff]
  intro f hf
  by_contra hkey
  obtain ⟨i, g, hg⟩ := exists_lookupKey? hf (by simpa using hkey)
  rw [h] at hg
  cases hg

/-- The field is the one that is found by its own name. -/
def Has (s : StructType) (f : Field) : Prop := ∃ i, s.lookup? f.name = some (i, f)

theorem has_of_lookup? {name : String} (h : s.lookup? name = some (i, f)) : s.Has f := by
  obtain ⟨_, _, hkey⟩ := lookupKey?_eq_some h
  refine ⟨i, ?_⟩
  rw [← h]
  exact congrArg s.lookupKey? hkey

theorem Has.eq_of_key_eq {f g : Field} (hf : s.Has f) (hg : s.Has g) (h : key f = key g) :
    f = g := by
  rcases hf with ⟨i, hi⟩
  rcases hg with ⟨j, hj⟩
  have hsame : s.lookup? f.name = s.lookup? g.name := congrArg s.lookupKey? h
  rw [hi, hj] at hsame
  exact congrArg Prod.snd (Option.some.inj hsame)

/-! ## Names that are refused -/

/-- The name of the field is bad after fields with these lower-case names. -/
inductive BadName (seen : List String) (f : Field) : SchemaError → Prop where
  | blank (blank : Text.isBlank f.name = true) : BadName seen f .blankColumn
  | repeated (named : Text.isBlank f.name = false) (again : key f ∈ seen) :
    BadName seen f (.duplicateColumn f.name)

theorem BadName.of_subset {seen seen' : List String} {e : SchemaError} (h : BadName seen f e)
    (hseen : seen ⊆ seen') : BadName seen' f e := by
  cases h with
  | blank hblank => exact .blank hblank
  | repeated hnamed hagain => exact .repeated hnamed (hseen hagain)

theorem checkNames_cons_of_badName {seen : List String} {rest : List Field} {e : SchemaError}
    (h : BadName seen f e) : checkNames seen (f :: rest) = .error e := by
  rw [checkNames]
  cases h with
  | blank hblank => rw [if_pos hblank]
  | repeated hnamed hagain => rw [if_neg (Bool.eq_false_iff.1 hnamed), if_pos hagain]

theorem checkNames_cons_of_not {seen : List String} {rest : List Field}
    (h : ∀ e, ¬BadName seen f e) : checkNames seen (f :: rest) = checkNames (key f :: seen) rest := by
  have hblank : Text.isBlank f.name = false := Bool.eq_false_iff.2 fun hblank => h _ (.blank hblank)
  rw [checkNames, if_neg (Bool.eq_false_iff.1 hblank), if_neg fun hagain => h _ (.repeated hblank hagain)]

/-- Names are refused at the first one that is bad after those before it. -/
theorem checkNames_eq_error_iff {seen : List String} {fields : List Field} {e : SchemaError} :
    checkNames seen fields = .error e ↔ ∃ before f after, fields = before ++ f :: after ∧
      checkNames seen before = .ok () ∧ BadName (before.map key ++ seen) f e := by
  induction fields generalizing seen with
  | nil => simp [checkNames]
  | cons f rest ih =>
    by_cases hbad : ∃ e', BadName seen f e'
    · obtain ⟨e', hbad⟩ := hbad
      constructor
      · intro h
        rw [checkNames_cons_of_badName hbad] at h
        cases h
        exact ⟨[], f, rest, rfl, rfl, hbad⟩
      · rintro ⟨before, g, after, hsplit, hbefore, hg⟩
        cases before with
        | nil =>
          cases hsplit
          exact checkNames_cons_of_badName hg
        | cons first before =>
          cases hsplit
          rw [checkNames_cons_of_badName hbad] at hbefore
          cases hbefore
    · have hgood := not_exists.1 hbad
      rw [checkNames_cons_of_not hgood, ih]
      -- The field is taken with those seen or with those before the bad one.
      have hseen (before : List Field) :
          (before.map key ++ key f :: seen).Perm ((f :: before).map key ++ seen) := List.perm_middle
      constructor
      · rintro ⟨before, g, after, rfl, hbefore, hg⟩
        exact ⟨f :: before, g, after, rfl, by rwa [checkNames_cons_of_not hgood],
          hg.of_subset (hseen before).subset⟩
      · rintro ⟨before, g, after, hsplit, hbefore, hg⟩
        cases before with
        | nil =>
          cases hsplit
          exact absurd hg (hgood e)
        | cons first before =>
          cases hsplit
          rw [checkNames_cons_of_not hgood] at hbefore
          exact ⟨before, g, after, rfl, hbefore, hg.of_subset (hseen before).symm.subset⟩

/-- Fields do not make a struct exactly when one of them has a bad name after those before it, and the
first of them is reported. -/
theorem ofFields_eq_error_iff {fields : List Field} {e : SchemaError} :
    ofFields fields = .error e ↔ ∃ before f after, fields = before ++ f :: after ∧
      ProperNames before ∧ BadName (before.map key) f e := by
  have hcheck : ofFields fields = .error e ↔ checkNames [] fields = .error e := by
    rw [ofFields]
    split <;> simp_all
  simp only [hcheck, checkNames_eq_error_iff, checkNames_nil_eq_ok_iff, List.append_nil]

theorem ofFields_of_badName {before after : List Field} {e : SchemaError} (hbefore : ProperNames before)
    (hbad : BadName (before.map key) f e) : ofFields (before ++ f :: after) = .error e :=
  ofFields_eq_error_iff.2 ⟨before, f, after, rfl, hbefore, hbad⟩

/-! ## Names and positions -/

/-- Every field is found by its own name, since no other has it. -/
theorem has_of_mem (hf : f ∈ s.fields) : s.Has f := by
  obtain ⟨i, g, hg⟩ := exists_lookupKey? hf rfl
  obtain ⟨_, hmem, hkey⟩ := lookupKey?_eq_some hg
  obtain rfl := List.inj_on_of_nodup_map s.distinct (List.mem_of_getElem? hmem) hf hkey
  exact ⟨i, hg⟩

/-- The name, case aside, is that of the field at the position. -/
def Means (s : StructType) (name : String) (ordinal : Nat) (field : Field) : Prop :=
  s.field? ordinal = some field ∧ Text.lowercase field.name = Text.lowercase name

/-- A name means one field at most. -/
theorem Means.unique {name : String} {j : Nat} {g : Field} (h : s.Means name i f)
    (h' : s.Means name j g) : i = j ∧ f = g := by
  have hi : (s.fields.map key)[i]? = some (Text.lowercase name) := by
    rw [List.getElem?_map, show s.fields[i]? = some f from h.1]
    exact congrArg some h.2
  have hj : (s.fields.map key)[j]? = some (Text.lowercase name) := by
    rw [List.getElem?_map, show s.fields[j]? = some g from h'.1]
    exact congrArg some h'.2
  obtain ⟨hlt, _⟩ := List.getElem?_eq_some_iff.1 hi
  obtain rfl := (List.getElem?_inj hlt s.distinct).1 (hi.trans hj.symm)
  exact ⟨rfl, Option.some.inj (h.1.symm.trans h'.1)⟩

theorem means_of_lookup? {name : String} (h : s.lookup? name = some (i, f)) : s.Means name i f :=
  (lookupKey?_eq_some h).2

/-- What a name means is found. -/
theorem Means.lookup?_eq {name : String} (h : s.Means name i f) : s.lookup? name = some (i, f) := by
  obtain ⟨j, g, hg⟩ := exists_lookupKey? (List.mem_of_getElem? h.1) h.2
  obtain ⟨rfl, rfl⟩ := h.unique (means_of_lookup? hg)
  exact hg

theorem lookup?_eq_none {name : String} (h : ∀ i f, ¬s.Means name i f) : s.lookup? name = none := by
  cases hfound : s.lookup? name with
  | none => rfl
  | some p => exact absurd (means_of_lookup? hfound) (h p.1 p.2)

theorem lookupKey?_eq_none_iff : s.lookupKey? k = none ↔ k ∉ s.fields.map key := by
  constructor
  · intro h hk
    obtain ⟨f, hf, hkey⟩ := List.mem_map.1 hk
    obtain ⟨i, g, hfound⟩ := exists_lookupKey? hf hkey
    exact absurd (h.symm.trans hfound) nofun
  · intro hk
    cases h : s.lookupKey? k with
    | none => rfl
    | some found =>
      obtain ⟨_, hat, hkey⟩ := lookupKey?_eq_some h
      exact absurd (List.mem_map.2 ⟨_, List.mem_of_getElem? hat, hkey⟩) hk

theorem isSome_indexOfKey?_iff : (s.indexOfKey? k).isSome ↔ k ∈ s.fields.map key := by
  simp [indexOfKey?, List.findIdx?_isSome, List.any_eq_true]

theorem key_of_indexOfKey? (h : s.indexOfKey? k = some i) :
    ∃ f, s.field? i = some f ∧ key f = k := by
  obtain ⟨hi, hkey, _⟩ := List.findIdx?_eq_some_iff_getElem.1 h
  exact ⟨s.fields[i], List.getElem?_eq_getElem hi, eq_of_beq hkey⟩

theorem indexOfKey?_eq_some_iff :
    s.indexOfKey? k = some i ↔ ∃ f, s.field? i = some f ∧ key f = k := by
  refine ⟨key_of_indexOfKey?, ?_⟩
  rintro ⟨f, hat, hkey⟩
  have hk : k ∈ s.fields.map key := List.mem_map.2 ⟨f, List.mem_of_getElem? hat, hkey⟩
  obtain ⟨j, hj⟩ := Option.isSome_iff_exists.1 (isSome_indexOfKey?_iff.2 hk)
  obtain ⟨g, hg, hkey'⟩ := key_of_indexOfKey? hj
  obtain ⟨rfl, _⟩ := Means.unique ⟨hg, hkey'.trans hkey.symm⟩ ⟨hat, rfl⟩
  exact hj

end ColumnScan.StructType
