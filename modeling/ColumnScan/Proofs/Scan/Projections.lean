import ColumnScan.Proofs.Scan.Columns
import ColumnScan.Proofs.Text.LowerCase
import Mathlib.Data.List.Perm.Basic

/-!
# What is read for the columns asked for

Looking the columns asked for up one after another gathers the positions of those that the source has
and the names of the others, unless one of them is refused. Different names stand at different
positions, so bringing the positions into the order of the source loses none; and since a name is
looked up in lower case, neither the order nor the case of the names matters to what is read. Main
statements: `locate_eq_error_iff`, when one column is refused; `foldlM_locate_eq_ok`, what is gathered;
and `ofRequest_exact`.
-/

namespace ColumnScan

namespace StructType

variable {s t : StructType} {f : Field}

/-- The fields whose names are not among those of the struct, case aside. -/
def unmatched (s : StructType) (fields : List Field) : List Field :=
  fields.filter fun f => key f ∉ s.fields.map key

theorem unmatched_cons_of_mem {rest : List Field} (h : key f ∈ s.fields.map key) :
    s.unmatched (f :: rest) = s.unmatched rest :=
  List.filter_cons_of_neg fun hf => of_decide_eq_true hf h

theorem unmatched_cons_of_notMem {rest : List Field} (h : key f ∉ s.fields.map key) :
    s.unmatched (f :: rest) = f :: s.unmatched rest :=
  List.filter_cons_of_pos (decide_eq_true h)

/-- The fields of one struct are those of the other in some order, their names in some case: names that
are the same in lower case differ in case only. -/
def SameColumns (s t : StructType) : Prop :=
  ∃ fields, s.fields.Perm fields ∧
    List.Forall₂ (fun f g => key f = key g ∧ f.type = g.type) fields t.fields

theorem SameColumns.perm_keys (h : SameColumns s t) : (s.fields.map key).Perm (t.fields.map key) := by
  obtain ⟨fields, hperm, hcase⟩ := h
  rw [← map_eq_map_of_forall₂ (hcase.imp fun _ _ h => h.1)]
  exact hperm.map key

theorem SameColumns.of_perm (h : s.fields.Perm t.fields) : SameColumns s t :=
  ⟨t.fields, h, List.forall₂_same.2 fun _ _ => ⟨rfl, rfl⟩⟩

/-- The case of ASCII letters is case. -/
theorem SameColumns.of_asciiCase (h : List.Forall₂ (fun f g =>
    Text.equalIgnoringAsciiCase f.name g.name = true ∧ f.type = g.type) s.fields t.fields) :
    SameColumns s t :=
  ⟨s.fields, .rfl, h.imp fun _ _ hfg =>
    ⟨Text.lowercase_eq_of_equalIgnoringAsciiCase hfg.1, hfg.2⟩⟩

/-- So is that of other letters, when all of them are made lower-case ones. -/
theorem SameColumns.of_lowercase
    (h : t.fields = s.fields.map fun f => { f with name := Text.lowercase f.name }) :
    SameColumns s t := by
  refine ⟨s.fields, .rfl, ?_⟩
  rw [h]
  refine List.forall₂_map_right_iff.2 (List.forall₂_same.2 fun f _ => ?_)
  exact ⟨(Text.lowercase_lowercase f.name).symm, rfl⟩

end StructType

namespace ColumnProjection

open StructType (key SameColumns unmatched)

variable {actual requested : StructType} {mode : ProjectionMode} {field : Field} {e : Error}

/-! ## Columns that are refused -/

/-- Why a column asked for is refused. -/
inductive Refused (actual : StructType) (mode : ProjectionMode) (field : Field) : Error → Prop
  | otherType {other : Field} : other ∈ actual.fields → key other = key field →
    other.type ≠ field.type →
      Refused actual mode field (.schema (.mismatch field.name field.type other.type))
  | absent : key field ∉ actual.fields.map key → mode = .requireAll →
      Refused actual mode field (.config (.missingColumn field.name))

theorem locate_eq_error_iff {found : Located} :
    locate actual mode found field = .error e ↔ Refused actual mode field e := by
  unfold locate
  cases hfound : actual.lookup? field.name with
  | none =>
    have habsent : key field ∉ actual.fields.map key := StructType.lookupKey?_eq_none_iff.1 hfound
    constructor
    · intro h
      cases mode with
      | lenient => cases h
      | requireAll =>
        cases h
        exact .absent habsent rfl
    · rintro (⟨hother, hkey, _⟩ | ⟨_, rfl⟩)
      · exact absurd (List.mem_map.2 ⟨_, hother, hkey⟩) habsent
      · rfl
  | some p =>
    obtain ⟨i, other⟩ := p
    obtain ⟨_, hat, hkey⟩ := StructType.lookupKey?_eq_some hfound
    have hother : other ∈ actual.fields := List.mem_of_getElem? hat
    constructor
    · intro h
      dsimp only at h
      split at h
      · cases h
      · next htype =>
        cases h
        exact .otherType hother hkey htype
    · rintro (⟨hother', hkey', htype⟩ | ⟨habsent, _⟩)
      · -- The column of another type is the one that is found: no two have the same name.
        obtain rfl := List.inj_on_of_nodup_map actual.distinct hother hother' (hkey.trans hkey'.symm)
        exact if_neg htype
      · exact absurd (List.mem_map.2 ⟨_, hother, hkey⟩) habsent

/-- Looking columns up fails as looking each of them up by itself. -/
theorem status_ofRequest :
    status (ofRequest requested actual mode) =
      forM requested.fields fun field => status (locate actual mode {} field) := by
  have hlocate (found : Located) (field : Field) :
      status (locate actual mode found field) = status (locate actual mode {} field) :=
    status_eq_status_iff.2 fun _ => locate_eq_error_iff.trans locate_eq_error_iff.symm
  rw [← status_foldlM hlocate requested.fields {}]
  exact status_bind_pure _ _

/-- A request is refused for the first of its columns that is. -/
theorem ofRequest_eq_error_iff :
    ofRequest requested actual mode = .error e ↔
      ∃ before bad after, requested.fields = before ++ bad :: after ∧
        (∀ earlier ∈ before, ∀ e', ¬Refused actual mode earlier e') ∧ Refused actual mode bad e := by
  rw [← status_eq_error_iff, status_ofRequest]
  exact forM_eq_error_iff_first fun _ _ => status_eq_error_iff.trans locate_eq_error_iff

theorem exists_ofRequest_eq_error_iff :
    (∃ e, ofRequest requested actual mode = .error e) ↔
      ∃ field ∈ requested.fields, ∃ e, Refused actual mode field e := by
  simp only [← status_eq_error_iff (x := ofRequest requested actual mode), status_ofRequest,
    exists_forM_eq_error_iff, status_eq_error_iff, locate_eq_error_iff]

/-- Whether a column is refused does not depend on the case of its name. -/
theorem Refused.exists_of_key_eq {f g : Field} (h : Refused actual mode f e) (hkey : key f = key g)
    (htype : f.type = g.type) : ∃ e', Refused actual mode g e' := by
  cases h with
  | otherType hother hsame hne => exact ⟨_, .otherType hother (hsame.trans hkey) (htype ▸ hne)⟩
  | absent habsent hmode => exact ⟨_, .absent (hkey ▸ habsent) hmode⟩

/-! ## What is gathered -/

/-- A column that is not refused adds its position or, if it has none, its name. -/
theorem locate_eq_ok {old new : Located} (h : locate actual mode old field = .ok new) :
    new.ordinals = old.ordinals ++ ([field].map key).filterMap actual.indexOfKey? ∧
      new.missing = old.missing ++ (unmatched actual [field]).map (·.name) := by
  unfold locate at h
  cases hfound : actual.lookup? field.name with
  | none =>
    rw [hfound] at h
    have hindex : actual.indexOfKey? (key field) = none :=
      StructType.indexOfKey?_eq_none_of_lookupKey? hfound
    have habsent : key field ∉ actual.fields.map key := StructType.lookupKey?_eq_none_iff.1 hfound
    cases mode with
    | requireAll => cases h
    | lenient =>
      cases h
      rw [StructType.unmatched_cons_of_notMem habsent]
      simp [unmatched, hindex]
  | some p =>
    rw [hfound] at h
    obtain ⟨hindex, hat, hkey⟩ := StructType.lookupKey?_eq_some hfound
    have hindex : actual.indexOfKey? (key field) = some p.1 := hindex
    have hpresent : key field ∈ actual.fields.map key :=
      List.mem_map.2 ⟨p.2, List.mem_of_getElem? hat, hkey⟩
    dsimp only at h
    split at h
    · cases h
      rw [StructType.unmatched_cons_of_mem hpresent]
      simp [unmatched, hindex]
    · cases h

theorem foldlM_locate_eq_ok {fields : List Field} {old new : Located}
    (h : fields.foldlM (locate actual mode) old = .ok new) :
    new.ordinals = old.ordinals ++ (fields.map key).filterMap actual.indexOfKey? ∧
      new.missing = old.missing ++ (unmatched actual fields).map (·.name) := by
  induction fields generalizing old with
  | nil =>
    cases h
    simp [unmatched]
  | cons field rest ih =>
    rw [List.foldlM_cons] at h
    obtain ⟨mid, hmid, h⟩ := bind_eq_ok_iff.1 h
    obtain ⟨hordinals, hmissing⟩ := locate_eq_ok hmid
    obtain ⟨hordinals', hmissing'⟩ := ih h
    constructor
    · rw [hordinals', hordinals, List.append_assoc, ← List.filterMap_append, ← List.map_append,
        List.singleton_append]
    · rw [hmissing', hmissing, List.append_assoc, ← List.map_append]
      exact congrArg (fun missing => _ ++ missing.map (·.name))
        (List.filter_append [field] rest).symm

/-! ## The order of the source -/

/-- Different names stand at different positions. -/
theorem nodup_positions {keys : List String} (distinct : keys.Nodup) :
    (keys.filterMap actual.indexOfKey?).Nodup := by
  refine distinct.filterMap ?_
  intro k k' i hk hk'
  obtain ⟨f, hf, rfl⟩ := StructType.key_of_indexOfKey? hk
  obtain ⟨g, hg, rfl⟩ := StructType.key_of_indexOfKey? hk'
  rw [Option.some.inj (hf.symm.trans hg)]

theorem lt_size_of_mem_positions {keys : List String} :
    ∀ i ∈ keys.filterMap actual.indexOfKey?, i < actual.size := by
  intro i hi
  obtain ⟨k, _, hk⟩ := List.mem_filterMap.1 hi
  obtain ⟨hlt, _, _⟩ := List.findIdx?_eq_some_iff_getElem.1 hk
  exact hlt

/-- A name has a position or is unmatched. -/
theorem length_positions_add_length_unmatched (actual : StructType) (fields : List Field) :
    ((fields.map key).filterMap actual.indexOfKey?).length + (unmatched actual fields).length =
      fields.length := by
  induction fields with
  | nil => rfl
  | cons f rest ih =>
    by_cases hf : key f ∈ actual.fields.map key
    · obtain ⟨i, hi⟩ := Option.isSome_iff_exists.1 (StructType.isSome_indexOfKey?_iff.2 hf)
      rw [StructType.unmatched_cons_of_mem hf, List.map_cons, List.filterMap_cons_some hi,
        List.length_cons, List.length_cons, ← ih]
      omega
    · have hnone : actual.indexOfKey? (key f) = none :=
        Option.not_isSome_iff_eq_none.1 (mt StructType.isSome_indexOfKey?_iff.1 hf)
      rw [StructType.unmatched_cons_of_notMem hf, List.map_cons, List.filterMap_cons_none hnone,
        List.length_cons, List.length_cons, ← ih]
      omega

/-! ## What is read -/

/-- The names at positions of the source. -/
theorem ofRequest_eq_ok_parts {p : ColumnProjection} (h : ofRequest requested actual mode = .ok p) :
    p.ordinals = ascending ((requested.fields.map key).filterMap actual.indexOfKey?) ∧
      p.names = p.ordinals.filterMap (fun i => (actual.field? i).map (·.name)) ∧
      p.missing = (unmatched actual requested.fields).map (·.name) := by
  obtain ⟨found, hfound, h⟩ := bind_eq_ok_iff.1 h
  obtain ⟨hordinals, hmissing⟩ := foldlM_locate_eq_ok hfound
  cases h
  exact ⟨congrArg ascending hordinals, rfl, hmissing⟩

theorem mem_positions_iff {keys : List String} {i : Nat} :
    i ∈ ascending (keys.filterMap actual.indexOfKey?) ↔
      ∃ field, actual.field? i = some field ∧ key field ∈ keys := by
  rw [mem_ascending, List.mem_filterMap]
  simp only [StructType.indexOfKey?_eq_some_iff]
  constructor
  · rintro ⟨k, hk, field, hat, rfl⟩
    exact ⟨field, hat, hk⟩
  · rintro ⟨field, hat, hk⟩
    exact ⟨key field, hk, field, hat, rfl⟩

/-- Every position has a name, that of the column there. -/
theorem forall₂_names {ordinals : List Nat} (bounded : ∀ i ∈ ordinals, i < actual.size) :
    List.Forall₂ (fun i name => ∃ field, actual.field? i = some field ∧ field.name = name) ordinals
      (ordinals.filterMap fun i => (actual.field? i).map (·.name)) := by
  induction ordinals with
  | nil => exact .nil
  | cons i rest ih =>
    obtain ⟨hi, hrest⟩ := List.forall_mem_cons.1 bounded
    have hat : actual.field? i = some actual.fields[i] := List.getElem?_eq_getElem hi
    rw [List.filterMap_cons_some (b := actual.fields[i].name) (by rw [hat]; rfl)]
    exact .cons ⟨_, hat, rfl⟩ (ih hrest)

/-- The same columns in another order, their names in another case, are read in the same way. -/
theorem ofRequest_of_sameColumns {p : ColumnProjection}
    (h : ofRequest requested actual mode = .ok p) {requested' : StructType}
    (hsame : SameColumns requested requested') : ∃ p', ofRequest requested' actual mode = .ok p' ∧
      p'.ordinals = p.ordinals ∧ p'.names = p.names := by
  have haccepted : ∃ p', ofRequest requested' actual mode = .ok p' := by
    cases hresult : ofRequest requested' actual mode with
    | ok p' => exact ⟨p', rfl⟩
    | error e =>
      -- The column that is refused is among those that were asked for first.
      obtain ⟨g, hg, e', hrefused⟩ := exists_ofRequest_eq_error_iff.1 ⟨e, hresult⟩
      obtain ⟨fields, hperm, hcase⟩ := hsame
      obtain ⟨f, hf, hkey, htype⟩ := exists_mem_of_forall₂ hcase.flip g hg
      have hbad := hrefused.exists_of_key_eq hkey.symm htype.symm
      obtain ⟨e'', he⟩ := exists_ofRequest_eq_error_iff.2 ⟨f, hperm.mem_iff.2 hf, hbad⟩
      exact absurd (h.symm.trans he) nofun
  obtain ⟨p', h'⟩ := haccepted
  obtain ⟨hordinals, hnames, _⟩ := ofRequest_eq_ok_parts h
  obtain ⟨hordinals', hnames', _⟩ := ofRequest_eq_ok_parts h'
  have hread : p'.ordinals = p.ordinals := by
    rw [hordinals, hordinals']
    exact (ascending_congr fun _ => (hsame.perm_keys.filterMap actual.indexOfKey?).mem_iff).symm
  exact ⟨p', h', hread, by rw [hnames', hnames, hread]⟩

/-- A request is refused exactly if one of its columns is, and for the first such column. What is read
otherwise are the columns of the source whose names are asked for, in the order of the source and under
the names that they have there; the names that no column has are listed in the order in which they were
asked for, and each column asked for is read or listed. What is read depends neither on the order of the
columns asked for nor on the case of their names. -/
theorem ofRequest_exact :
    ((∃ e, ofRequest requested actual mode = .error e) ↔
      ∃ field ∈ requested.fields, ∃ e, Refused actual mode field e) ∧
    (∀ e, ofRequest requested actual mode = .error e ↔
      ∃ before bad after, requested.fields = before ++ bad :: after ∧
        (∀ earlier ∈ before, ∀ e', ¬Refused actual mode earlier e') ∧ Refused actual mode bad e) ∧
    ∀ p, ofRequest requested actual mode = .ok p →
      p.ordinals.Pairwise (· < ·) ∧
      (∀ i, i ∈ p.ordinals ↔
        ∃ field, actual.field? i = some field ∧ key field ∈ requested.fields.map key) ∧
      List.Forall₂ (fun i name => ∃ field, actual.field? i = some field ∧ field.name = name)
        p.ordinals p.names ∧
      p.missing = (unmatched actual requested.fields).map (·.name) ∧
      p.ordinals.length + p.missing.length = requested.size ∧
      ∀ requested', SameColumns requested requested' → ∃ p',
        ofRequest requested' actual mode = .ok p' ∧ p'.ordinals = p.ordinals ∧
          p'.names = p.names := by
  refine ⟨exists_ofRequest_eq_error_iff, fun _ => ofRequest_eq_error_iff, ?_⟩
  intro p h
  obtain ⟨hordinals, hnames, hmissing⟩ := ofRequest_eq_ok_parts h
  have hcounted : p.ordinals.length + p.missing.length = requested.size := by
    rw [hordinals, hmissing, List.length_map,
      (ascending_perm (nodup_positions requested.distinct)).length_eq]
    exact length_positions_add_length_unmatched actual requested.fields
  refine ⟨?_, ?_, ?_, hmissing, hcounted, fun _ hsame => ofRequest_of_sameColumns h hsame⟩
  · rw [hordinals]
    exact pairwise_ascending _
  · rw [hordinals]
    exact fun _ => mem_positions_iff
  · rw [hnames]
    refine forall₂_names fun i hi => ?_
    rw [hordinals] at hi
    exact lt_size_of_mem_positions i (mem_ascending.1 hi)

/-- A source and columns that are asked for: one that it lacks, and two in another order and case. -/
def scoreSource : StructType :=
  ⟨[⟨"id", .primitive .long⟩, ⟨"Name", .primitive .string⟩, ⟨"score", .primitive .double⟩],
    by decide +kernel⟩

def scoreRequest : StructType :=
  ⟨[⟨"Score", .primitive .double⟩, ⟨"extra", .primitive .int⟩, ⟨"NAME", .primitive .string⟩],
    by decide +kernel⟩

theorem ofRequest_exact_scoreRequest :
    (∃ field ∈ scoreRequest.fields, ∃ e, Refused scoreSource .requireAll field e) ∧
    ∃ p, ofRequest scoreRequest scoreSource .lenient = .ok p ∧ p.ordinals = [1, 2] ∧
      p.missing.length = 1 ∧ ∀ request : StructType, request.fields ∈ [scoreRequest.fields.reverse,
        [⟨"SCORE", .primitive .double⟩, ⟨"Extra", .primitive .int⟩, ⟨"name", .primitive .string⟩],
        scoreRequest.fields.map fun f => { f with name := Text.lowercase f.name }] →
        ∃ p', ofRequest request scoreSource .lenient = .ok p' ∧ p'.ordinals = p.ordinals ∧
          p'.names = p.names := by
  have hsorted : ascending [2, 1] = [1, 2] :=
    (ascending_eq_filter (show ∀ i ∈ [2, 1], i < 3 by decide)).trans (by decide)
  obtain ⟨p, h, hordinals⟩ : ∃ p, ofRequest scoreRequest scoreSource .lenient = .ok p ∧
      p.ordinals = [1, 2] := ⟨_, rfl, hsorted⟩
  obtain ⟨_, _, _, _, hcounted, hsame⟩ := ofRequest_exact.2.2 p h
  rw [hordinals] at hcounted
  refine ⟨ofRequest_exact.1.1 ⟨_, rfl⟩, p, h, hordinals, Nat.add_left_cancel hcounted, ?_⟩
  intro request hrequest
  rw [List.mem_cons, List.mem_cons, List.mem_singleton] at hrequest
  rcases hrequest with hbackwards | hcased | hlower
  · exact hsame request (.of_perm (hbackwards ▸ scoreRequest.fields.reverse_perm.symm))
  · refine hsame request (.of_asciiCase ?_)
    rw [hcased]
    exact .cons ⟨rfl, rfl⟩ (.cons ⟨rfl, rfl⟩ (.cons ⟨rfl, rfl⟩ .nil))
  · exact hsame request (.of_lowercase hlower)

end ColumnProjection

end ColumnScan
