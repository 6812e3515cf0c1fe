import ColumnScan.Proofs.Scan.Settings
import Mathlib.Data.List.Induction
import Mathlib.Data.List.Perm.Basic

/-!
# The first setting that is wrong

A setting is wrong by itself or after others, and the first wrong one is what a draft reports, whatever
follows. `ScanSetting.WrongAfter` tells when a setting is wrong, without a draft, and a draft is read off
the settings made: it holds what the first of them tells, or the last where a setting may be made again,
and it has an error exactly if one of them was wrong. Main statements: `ScanDraft.holds_foldl_set` and
`ScanDraft.error_foldl_set_eq_none_iff`, what is in a draft; `ScanSetting.sound_iff`, that being wrong
does not depend on the order of settings; and `ScanPlan.ofSettings_first_wrong`.
-/

namespace ColumnScan

open StructType (ProperNames BadName)

/-! ## The first item that tells something -/

section

variable {α β : Type} {f : α → Option β} {xs ys : List α}

/-- Something is told if there is an item that can tell it. -/
theorem isSome_findSome?_iff {make : β → α} (h : ∀ a b, f a = some b ↔ a = make b) :
    (xs.findSome? f).isSome ↔ ∃ b, make b ∈ xs := by
  rw [List.findSome?_isSome_iff]
  constructor
  · rintro ⟨a, ha, htells⟩
    obtain ⟨b, hb⟩ := Option.isSome_iff_exists.1 htells
    exact ⟨b, (h a b).1 hb ▸ ha⟩
  · rintro ⟨b, hb⟩
    exact ⟨make b, hb, Option.isSome_iff_exists.2 ⟨b, (h _ b).2 rfl⟩⟩

/-- If no two items tell something, it makes no difference which item comes first. -/
theorem findSome?_eq_of_perm (hperm : xs.Perm ys)
    (once : xs.Pairwise fun a b => ¬((f a).isSome ∧ (f b).isSome)) :
    xs.findSome? f = ys.findSome? f := by
  induction hperm with
  | nil => rfl
  | cons a _ ih =>
    rw [List.findSome?_cons, List.findSome?_cons, ih (List.pairwise_cons.1 once).2]
  | swap a b xs =>
    have hab : ¬((f b).isSome ∧ (f a).isSome) := (List.pairwise_cons.1 once).1 a List.mem_cons_self
    cases ha : f a with
    | none => simp [List.findSome?_cons, ha]
    | some x =>
      cases hb : f b with
      | none => simp [List.findSome?_cons, hb]
      | some y => exact absurd ⟨by rw [hb]; rfl, by rw [ha]; rfl⟩ hab
  | trans hxy _ ihx ihy =>
    have hsymm {a b : α} (h : ¬((f a).isSome ∧ (f b).isSome)) : ¬((f b).isSome ∧ (f a).isSome) :=
      mt And.symm h
    rw [ihx once, ihy ((hxy.pairwise_iff hsymm).1 once)]

theorem findSome?_eq_some_of_mem {a : α} {b : β} (ha : a ∈ xs) (htells : f a = some b)
    (once : xs.Pairwise fun a b => ¬((f a).isSome ∧ (f b).isSome)) : xs.findSome? f = some b := by
  obtain ⟨before, after, rfl⟩ := List.append_of_mem ha
  rw [findSome?_eq_of_perm List.perm_middle once, List.findSome?_cons, htells]

end

/-! ## What settings tell -/

namespace ScanSetting

/-- What one setting tells; most of it is left open. -/
structure Content where
  choice? : Option SchemaChoice := none
  columns? : Option (List String) := none
  argument? : Option SearchArgument := none
  rowLevelFilter? : Option Bool := none
  mode? : Option ProjectionMode := none
  prependRowId? : Option Bool := none

/-- What the setting tells. Fields with bad names choose no schema, and only a scan of envelopes has
something to tell about identities. -/
def content : ScanSetting → Content
  | .declaredSchema schema => { choice? := some (.declared schema) }
  | .declaredFields fields =>
    { choice? := (StructType.ofFields fields).toOption.map .declared }
  | .schemaFromSource => { choice? := some .fromSource }
  | .columns names => { columns? := some names }
  | .searchArgument argument => { argument? := some argument }
  | .rowLevelFilter enabled => { rowLevelFilter? := some enabled }
  | .projectionMode mode => { mode? := some mode }
  | .transactional prependRowId => { prependRowId? := some prependRowId }

section

variable {s : ScanSetting}

theorem columns?_eq_some_iff {names : List String} :
    s.content.columns? = some names ↔ s = .columns names := by
  cases s <;> simp [content]

theorem argument?_eq_some_iff {argument : SearchArgument} :
    s.content.argument? = some argument ↔ s = .searchArgument argument := by
  cases s <;> simp [content]

theorem rowLevelFilter?_eq_some_iff {enabled : Bool} :
    s.content.rowLevelFilter? = some enabled ↔ s = .rowLevelFilter enabled := by
  cases s <;> simp [content]

theorem mode?_eq_some_iff {mode : ProjectionMode} :
    s.content.mode? = some mode ↔ s = .projectionMode mode := by
  cases s <;> simp [content]

theorem prependRowId?_eq_some_iff {prependRowId : Bool} :
    s.content.prependRowId? = some prependRowId ↔ s = .transactional prependRowId := by
  cases s <;> simp [content]

end

/-- The setting is wrong after those made before it, and this is what is wrong. -/
inductive WrongAfter (earlier : List ScanSetting) : ScanSetting → ConfigError → Prop where
  /-- A field has a name with nothing but blanks or that of a field before it. -/
  | badField {front back : List Field} {field : Field} {e : SchemaError} (proper : ProperNames front)
    (bad : BadName (front.map StructType.key) field e) :
    WrongAfter earlier (.declaredFields (front ++ field :: back)) (.ofSchema e)
  /-- A schema was chosen before. -/
  | schemaAgain {s : ScanSetting} (chooses : s.content.choice?.isSome)
    (chosen : ∃ t ∈ earlier, t.content.choice?.isSome) : WrongAfter earlier s (.alreadySet .schema)
  /-- Columns were listed before. -/
  | columnsAgain {first again : List String} (listed : .columns first ∈ earlier) :
    WrongAfter earlier (.columns again) (.alreadySet .columns)
  /-- A column has the name of one before it. -/
  | repeatedColumn {front back : List String} {name : String}
    (first : ∀ names, .columns names ∉ earlier) (distinct : (front.map Text.lowercase).Nodup)
    (again : Text.lowercase name ∈ front.map Text.lowercase) :
    WrongAfter earlier (.columns (front ++ name :: back)) (.duplicateColumn name)
  /-- A search argument was given before. -/
  | argumentAgain {first again : SearchArgument} (given : .searchArgument first ∈ earlier) :
    WrongAfter earlier (.searchArgument again) (.alreadySet .searchArgument)
  /-- It was told before whether rows are judged. -/
  | rowLevelFilterAgain {first again : Bool} (told : .rowLevelFilter first ∈ earlier) :
    WrongAfter earlier (.rowLevelFilter again) (.alreadySet .rowLevelFilter)

/-- No setting is wrong after those before it. -/
def Sound (settings : List ScanSetting) : Prop :=
  ∀ earlier s later, settings = earlier ++ s :: later → ∀ e, ¬s.WrongAfter earlier e

theorem sound_nil : Sound [] := by
  intro earlier s later hsplit
  exact absurd hsplit.symm (List.append_ne_nil_of_right_ne_nil _ (List.cons_ne_nil _ _))

/-- One more setting is to be judged after all others. -/
theorem sound_append_singleton {settings : List ScanSetting} {s : ScanSetting} :
    Sound (settings ++ [s]) ↔ Sound settings ∧ ∀ e, ¬s.WrongAfter settings e := by
  constructor
  · intro h
    refine ⟨fun earlier t later hsplit => ?_, h settings s [] rfl⟩
    exact h earlier t (later ++ [s]) (by rw [hsplit, List.append_assoc, List.cons_append])
  · rintro ⟨hsettings, hs⟩ earlier t later hsplit
    rcases List.eq_nil_or_concat' later with rfl | ⟨later, u, rfl⟩
    · obtain ⟨rfl, rfl⟩ := List.append_singleton_inj.1 hsplit
      exact hs
    · rw [← List.cons_append, ← List.append_assoc] at hsplit
      exact hsettings earlier t later (List.append_singleton_inj.1 hsplit).1

/-- If some setting is wrong, one of them is the first. -/
theorem exists_first_wrong {settings : List ScanSetting} (h : ¬Sound settings) :
    ∃ earlier s later e, settings = earlier ++ s :: later ∧ Sound earlier ∧ s.WrongAfter earlier e := by
  induction settings using List.reverseRecOn with
  | nil => exact absurd sound_nil h
  | append_singleton settings s ih =>
    by_cases hsettings : Sound settings
    · rw [sound_append_singleton, not_and] at h
      obtain ⟨e, hwrong⟩ := not_forall_not.1 (h hsettings)
      exact ⟨settings, s, [], e, rfl, hsettings, hwrong⟩
    · obtain ⟨earlier, t, later, e, rfl, hsound, hwrong⟩ := ih hsettings
      exact ⟨earlier, t, later ++ [s], e, by simp, hsound, hwrong⟩

/-- One of the two settings is wrong after the other. -/
inductive Clashes : ScanSetting → ScanSetting → Prop where
  | schema {s t : ScanSetting} (first : s.content.choice?.isSome) (again : t.content.choice?.isSome) :
    Clashes s t
  | columns (first again : List String) : Clashes (.columns first) (.columns again)
  | searchArgument (first again : SearchArgument) :
    Clashes (.searchArgument first) (.searchArgument again)
  | rowLevelFilter (first again : Bool) : Clashes (.rowLevelFilter first) (.rowLevelFilter again)

theorem Clashes.symm {s t : ScanSetting} (h : s.Clashes t) : t.Clashes s := by
  cases h with
  | schema hfirst hagain => exact .schema hagain hfirst
  | columns first again => exact .columns again first
  | searchArgument first again => exact .searchArgument again first
  | rowLevelFilter first again => exact .rowLevelFilter again first

/-- A setting is wrong by itself or by one before it. -/
theorem exists_wrongAfter_iff {earlier : List ScanSetting} {s : ScanSetting} :
    (∃ e, s.WrongAfter earlier e) ↔ (∃ e, s.WrongAfter [] e) ∨ ∃ t ∈ earlier, t.Clashes s := by
  constructor
  · rintro ⟨e, hwrong⟩
    cases hwrong with
    | badField hproper hbad => exact .inl ⟨_, .badField hproper hbad⟩
    | repeatedColumn _ hdistinct hagain =>
      exact .inl ⟨_, .repeatedColumn (fun _ => List.not_mem_nil) hdistinct hagain⟩
    | schemaAgain hchooses hchosen =>
      obtain ⟨t, ht, hchosen⟩ := hchosen
      exact .inr ⟨t, ht, .schema hchosen hchooses⟩
    | columnsAgain hlisted => exact .inr ⟨_, hlisted, .columns _ _⟩
    | argumentAgain hgiven => exact .inr ⟨_, hgiven, .searchArgument _ _⟩
    | rowLevelFilterAgain htold => exact .inr ⟨_, htold, .rowLevelFilter _ _⟩
  · rintro (⟨e, hwrong⟩ | ⟨t, ht, hclash⟩)
    · cases hwrong with
      | badField hproper hbad => exact ⟨_, .badField hproper hbad⟩
      | repeatedColumn _ hdistinct hagain =>
        by_cases hlisted : ∃ names, .columns names ∈ earlier
        · exact ⟨_, .columnsAgain hlisted.choose_spec⟩
        · exact ⟨_, .repeatedColumn (not_exists.1 hlisted) hdistinct hagain⟩
      | schemaAgain _ hchosen =>
        obtain ⟨_, hmem, -⟩ := hchosen
        cases hmem
      | columnsAgain hmem | argumentAgain hmem | rowLevelFilterAgain hmem => cases hmem
    · cases hclash with
      | schema hfirst hagain => exact ⟨_, .schemaAgain hagain ⟨t, ht, hfirst⟩⟩
      | columns => exact ⟨_, .columnsAgain ht⟩
      | searchArgument => exact ⟨_, .argumentAgain ht⟩
      | rowLevelFilter => exact ⟨_, .rowLevelFilterAgain ht⟩

/-- Settings are sound if each is by itself and no two clash, in whatever order. -/
theorem sound_iff {settings : List ScanSetting} :
    Sound settings ↔
      (∀ s ∈ settings, ∀ e, ¬s.WrongAfter [] e) ∧ settings.Pairwise fun s t => ¬s.Clashes t := by
  induction settings using List.reverseRecOn with
  | nil => simp [sound_nil]
  | append_singleton settings s ih =>
    have hlast : (∀ e, ¬s.WrongAfter settings e) ↔
        (∀ e, ¬s.WrongAfter [] e) ∧ ∀ t ∈ settings, ¬t.Clashes s := by
      rw [← not_exists, exists_wrongAfter_iff, not_or, not_exists, not_exists]
      simp only [not_and]
    rw [sound_append_singleton, ih, hlast, List.pairwise_append]
    simp only [List.mem_append, List.mem_singleton, or_imp, forall_and, forall_eq,
      List.pairwise_singleton, true_and]
    tauto

theorem Sound.perm {settings other : List ScanSetting} (h : Sound settings)
    (hperm : settings.Perm other) : Sound other := by
  rw [sound_iff] at h ⊢
  refine ⟨fun s hs => h.1 s (hperm.mem_iff.2 hs), ?_⟩
  exact (hperm.pairwise_iff fun hnot hclash => hnot hclash.symm).1 h.2

end ScanSetting

/-! ## What a draft holds -/

namespace ScanDraft

open ScanSetting

variable {d : ScanDraft} {s : ScanSetting} {earlier : List ScanSetting}

/-- What is wrong with a setting, as the draft tells it. -/
def objection? (d : ScanDraft) : ScanSetting → Option ConfigError
  | .declaredFields fields =>
    match StructType.ofFields fields with
    | .ok _ => if d.schema.isSome then some (.alreadySet .schema) else none
    | .error e => some (.ofSchema e)
  | .declaredSchema _ | .schemaFromSource =>
    if d.schema.isSome then some (.alreadySet .schema) else none
  | .columns names =>
    if d.columns.isSome then some (.alreadySet .columns)
    else (firstRepeated? [] names).map .duplicateColumn
  | .searchArgument _ =>
    if d.searchArgument.isSome then some (.alreadySet .searchArgument) else none
  | .rowLevelFilter _ =>
    if d.rowLevelFilter.isSome then some (.alreadySet .rowLevelFilter) else none
  | .projectionMode _ | .transactional _ => none

theorem chooseSchema_eq (d : ScanDraft) (choice : SchemaChoice) :
    d.chooseSchema choice =
      { d with
        schema := d.schema.or (some choice)
        error := d.error.or (if d.schema.isSome then some (.alreadySet .schema) else none) } := by
  rw [chooseSchema, fail]
  cases hschema : d.schema with
  | none => simp
  | some chosen => simp

theorem chooseColumns_eq (d : ScanDraft) (names : List String) :
    d.chooseColumns names =
      { d with
        columns := d.columns.or (some names)
        error := d.error.or (if d.columns.isSome then some (.alreadySet .columns)
          else (firstRepeated? [] names).map .duplicateColumn) } := by
  rw [chooseColumns]
  cases hcolumns : d.columns with
  | none => cases firstRepeated? [] names <;> simp [fail]
  | some listed => simp [fail, hcolumns]

/-- A setting adds what it tells where nothing was told, or over what was told where it may be made
again; the first objection stays. -/
theorem set_eq (d : ScanDraft) (s : ScanSetting) :
    d.set s =
      { schema := d.schema.or s.content.choice?
        columns := d.columns.or s.content.columns?
        searchArgument := d.searchArgument.or (s.content.argument?.map SearchArgument.toBlob)
        rowLevelFilter := d.rowLevelFilter.or s.content.rowLevelFilter?
        mode := s.content.mode?.getD d.mode
        transactional := d.transactional || s.content.prependRowId?.isSome
        prependRowId := s.content.prependRowId?.getD d.prependRowId
        error := d.error.or (d.objection? s) } := by
  cases s with
  | declaredSchema | schemaFromSource => simp [set, chooseSchema_eq, objection?, content]
  | declaredFields fields =>
    cases hfields : StructType.ofFields fields with
    | error e => simp [set, fail, hfields, objection?, content, Except.toOption]
    | ok schema => simp [set, hfields, chooseSchema_eq, objection?, content, Except.toOption]
  | columns names => simp [set, chooseColumns_eq, objection?, content]
  | searchArgument argument =>
    cases hargument : d.searchArgument <;> simp [set, fail, hargument, objection?, content]
  | rowLevelFilter enabled =>
    cases hfilter : d.rowLevelFilter <;> simp [set, fail, hfilter, objection?, content]
  | projectionMode | transactional => simp [set, objection?, content]

/-- The draft holds what the settings tell: the first of them, or the last about missing columns and
identities. -/
structure Holds (d : ScanDraft) (settings : List ScanSetting) : Prop where
  schema : d.schema = settings.findSome? (·.content.choice?)
  columns : d.columns = settings.findSome? (·.content.columns?)
  searchArgument : d.searchArgument =
    (settings.findSome? (·.content.argument?)).map SearchArgument.toBlob
  rowLevelFilter : d.rowLevelFilter = settings.findSome? (·.content.rowLevelFilter?)
  mode : d.mode = (settings.reverse.findSome? (·.content.mode?)).getD .lenient
  transactional : d.transactional = (settings.findSome? (·.content.prependRowId?)).isSome
  prependRowId : d.prependRowId = (settings.reverse.findSome? (·.content.prependRowId?)).getD false

theorem Holds.set (h : d.Holds earlier) (s : ScanSetting) : (d.set s).Holds (earlier ++ [s]) := by
  rw [set_eq]
  constructor
  · simp [h.schema, List.findSome?_append]
  · simp [h.columns, List.findSome?_append]
  · simp [h.searchArgument, List.findSome?_append, Option.map_or]
  · simp [h.rowLevelFilter, List.findSome?_append]
  · cases hmode : s.content.mode? <;> simp [h.mode, hmode]
  · simp [h.transactional, List.findSome?_append]
  · cases hids : s.content.prependRowId? <;> simp [h.prependRowId, hids]

theorem holds_foldl_set (settings : List ScanSetting) : (settings.foldl set {}).Holds settings := by
  induction settings using List.reverseRecOn with
  | nil => constructor <;> rfl
  | append_singleton settings s ih =>
    rw [List.foldl_append]
    exact ih.set s

/-! ## What is wrong -/

section

variable {e : ConfigError}

theorem Holds.isSome_schema_iff (h : d.Holds earlier) :
    d.schema.isSome ↔ ∃ t ∈ earlier, t.content.choice?.isSome := by
  rw [h.schema, List.findSome?_isSome_iff]

theorem Holds.isSome_columns_iff (h : d.Holds earlier) :
    d.columns.isSome ↔ ∃ names, .columns names ∈ earlier := by
  rw [h.columns, isSome_findSome?_iff fun _ _ => columns?_eq_some_iff]

theorem Holds.isSome_searchArgument_iff (h : d.Holds earlier) :
    d.searchArgument.isSome ↔ ∃ argument, .searchArgument argument ∈ earlier := by
  rw [h.searchArgument, Option.isSome_map, isSome_findSome?_iff fun _ _ => argument?_eq_some_iff]

theorem Holds.isSome_rowLevelFilter_iff (h : d.Holds earlier) :
    d.rowLevelFilter.isSome ↔ ∃ enabled, .rowLevelFilter enabled ∈ earlier := by
  rw [h.rowLevelFilter, isSome_findSome?_iff fun _ _ => rowLevelFilter?_eq_some_iff]

/-- Only wrong settings are objected to. -/
theorem wrongAfter_of_objection? (h : d.Holds earlier) (hobjection : d.objection? s = some e) :
    s.WrongAfter earlier e := by
  cases s with
  | declaredSchema | schemaFromSource =>
    obtain ⟨hchosen, ⟨⟩⟩ := Option.ite_none_right_eq_some.1 hobjection
    exact .schemaAgain rfl (h.isSome_schema_iff.1 hchosen)
  | declaredFields fields =>
    rw [objection?] at hobjection
    split at hobjection
    next schema hfields =>
      obtain ⟨hchosen, ⟨⟩⟩ := Option.ite_none_right_eq_some.1 hobjection
      exact .schemaAgain (by rw [content, hfields]; rfl) (h.isSome_schema_iff.1 hchosen)
    next hfields =>
      cases hobjection
      obtain ⟨front, field, back, rfl, hproper, hbad⟩ := StructType.ofFields_eq_error_iff.1 hfields
      exact .badField hproper hbad
  | columns names =>
    rw [objection?] at hobjection
    split at hobjection
    next hlisted =>
      cases hobjection
      obtain ⟨names, hmem⟩ := h.isSome_columns_iff.1 hlisted
      exact .columnsAgain hmem
    next hfirst =>
      obtain ⟨name, hname, rfl⟩ := Option.map_eq_some_iff.1 hobjection
      obtain ⟨front, back, rfl, hfront, hagain⟩ := firstRepeated?_eq_some_iff.1 hname
      rw [List.append_nil] at hagain
      have hunlisted := not_exists.1 (mt h.isSome_columns_iff.2 hfirst)
      exact .repeatedColumn hunlisted (firstRepeated?_eq_none_iff.1 hfront).1 hagain
  | searchArgument argument =>
    obtain ⟨hgiven, ⟨⟩⟩ := Option.ite_none_right_eq_some.1 hobjection
    obtain ⟨first, hmem⟩ := h.isSome_searchArgument_iff.1 hgiven
    exact .argumentAgain hmem
  | rowLevelFilter enabled =>
    obtain ⟨htold, ⟨⟩⟩ := Option.ite_none_right_eq_some.1 hobjection
    obtain ⟨first, hmem⟩ := h.isSome_rowLevelFilter_iff.1 htold
    exact .rowLevelFilterAgain hmem
  | projectionMode | transactional => cases hobjection

/-- Every wrong setting is objected to, and for what is wrong with it. -/
theorem objection?_of_wrongAfter (h : d.Holds earlier) (hwrong : s.WrongAfter earlier e) :
    d.objection? s = some e := by
  cases hwrong with
  | badField hproper hbad =>
    rw [objection?, StructType.ofFields_of_badName hproper hbad]
  | schemaAgain hchooses hchosen =>
    have hchosen := h.isSome_schema_iff.2 hchosen
    cases s with
    | declaredSchema | schemaFromSource => exact if_pos hchosen
    | declaredFields fields =>
      rw [objection?]
      cases hfields : StructType.ofFields fields with
      | ok schema => exact if_pos hchosen
      | error e =>
        rw [content, hfields] at hchooses
        cases hchooses
    | _ => cases hchooses
  | columnsAgain hlisted => exact if_pos (h.isSome_columns_iff.2 ⟨_, hlisted⟩)
  | repeatedColumn hfirst hdistinct hagain =>
    have hnone := firstRepeated?_eq_none_iff.2 ⟨hdistinct, fun _ _ => List.not_mem_nil⟩
    rw [objection?, if_neg (mt h.isSome_columns_iff.1 (not_exists.2 hfirst)), firstRepeated?_eq_some_iff.2
      ⟨_, _, rfl, hnone, List.mem_append_left [] hagain⟩]
    rfl
  | argumentAgain hgiven => exact if_pos (h.isSome_searchArgument_iff.2 ⟨_, hgiven⟩)
  | rowLevelFilterAgain htold => exact if_pos (h.isSome_rowLevelFilter_iff.2 ⟨_, htold⟩)

end

/-- A draft without an error fails at the next setting exactly when that is wrong. -/
theorem error_foldl_set_append {settings : List ScanSetting}
    (h : (settings.foldl set {}).error = none) (s : ScanSetting) (e : ConfigError) :
    ((settings ++ [s]).foldl set {}).error = some e ↔ s.WrongAfter settings e := by
  rw [List.foldl_append, List.foldl_cons, List.foldl_nil, set_eq, h, Option.none_or]
  have hholds := holds_foldl_set settings
  exact ⟨wrongAfter_of_objection? hholds, objection?_of_wrongAfter hholds⟩

/-- An error stays, whatever is set after it. -/
theorem error_foldl_set_of_error {e : ConfigError} (h : d.error = some e) (later : List ScanSetting) :
    (later.foldl set d).error = some e := by
  induction later generalizing d with
  | nil => exact h
  | cons s later ih =>
    apply ih
    rw [set_eq, h, Option.some_or]

/-- A draft is free of errors exactly when no setting was wrong. -/
theorem error_foldl_set_eq_none_iff {settings : List ScanSetting} :
    (settings.foldl set {}).error = none ↔ Sound settings := by
  induction settings using List.reverseRecOn with
  | nil => exact iff_of_true rfl sound_nil
  | append_singleton settings s ih =>
    rw [sound_append_singleton, ← ih]
    cases herror : (settings.foldl set {}).error with
    | none =>
      simp only [true_and, ← error_foldl_set_append herror, ← Option.eq_none_iff_forall_ne_some]
    | some e =>
      rw [List.foldl_append, error_foldl_set_of_error herror]
      exact iff_of_false nofun fun h => nomatch h.1

end ScanDraft

/-! ## The description that settings give -/

/-- The description that holds what settings tell: the first of them, or the last where they may be made
again. What is left open has its default, except the schema. -/
def ScanConfig.told (choice : SchemaChoice) (settings : List ScanSetting) : ScanConfig where
  schema := choice
  columns := settings.findSome? (·.content.columns?)
  searchArgument := (settings.findSome? (·.content.argument?)).map SearchArgument.toBlob
  rowLevelFilter := (settings.findSome? (·.content.rowLevelFilter?)).getD true
  mode := (settings.reverse.findSome? (·.content.mode?)).getD .lenient
  transactional := (settings.findSome? (·.content.prependRowId?)).isSome
  prependRowId := (settings.reverse.findSome? (·.content.prependRowId?)).getD false

namespace ScanSetting

variable {settings other : List ScanSetting}

/-- A setting about the schema chooses one unless it is wrong. -/
theorem exists_choice?_of_sound (h : Sound settings) {s : ScanSetting} (hs : s ∈ settings)
    (hsubject : s.subject = .schema) : ∃ choice, s.content.choice? = some choice := by
  cases s with
  | declaredFields fields =>
    cases hfields : StructType.ofFields fields with
    | ok schema => exact ⟨.declared schema, by rw [content, hfields]; rfl⟩
    | error e =>
      obtain ⟨front, field, back, rfl, hproper, hbad⟩ := StructType.ofFields_eq_error_iff.1 hfields
      exact absurd (.badField hproper hbad) ((sound_iff.1 h).1 _ hs _)
  | declaredSchema schema => exact ⟨.declared schema, rfl⟩
  | schemaFromSource => exact ⟨.fromSource, rfl⟩
  | _ => cases hsubject

/-- At most one of sound settings chooses a schema. -/
theorem pairwise_choice?_of_sound (h : Sound settings) :
    settings.Pairwise fun s t => ¬(s.content.choice?.isSome ∧ t.content.choice?.isSome) :=
  (sound_iff.1 h).2.imp fun hnot hboth => hnot (.schema hboth.1 hboth.2)

/-- Every setter is used at most once. -/
def SettersOnce (settings : List ScanSetting) : Prop := (settings.map ScanSetting.ctorIdx).Nodup

theorem SettersOnce.perm (h : SettersOnce settings) (hperm : settings.Perm other) : SettersOnce other :=
  (hperm.map _).nodup_iff.1 h

/-- What one setter tells is told once. -/
theorem SettersOnce.pairwise {β : Type} {f : ScanSetting → Option β} {make : β → ScanSetting}
    (h : SettersOnce settings) (hmake : ∀ s b, f s = some b ↔ s = make b)
    (hsetter : ∀ b c, (make b).ctorIdx = (make c).ctorIdx) :
    settings.Pairwise fun s t => ¬((f s).isSome ∧ (f t).isSome) := by
  refine (List.pairwise_map.1 h).imp fun {s t} hne hboth => hne ?_
  obtain ⟨b, hb⟩ := Option.isSome_iff_exists.1 hboth.1
  obtain ⟨c, hc⟩ := Option.isSome_iff_exists.1 hboth.2
  rw [(hmake s b).1 hb, (hmake t c).1 hc]
  exact hsetter b c

/-- If every setter is used at most once, the order of the settings makes no difference to the
description. -/
theorem told_eq_of_perm {choice : SchemaChoice} (honce : SettersOnce settings)
    (hperm : settings.Perm other) : ScanConfig.told choice settings = .told choice other := by
  have hback : settings.reverse.Perm other.reverse :=
    (List.reverse_perm settings).trans (hperm.trans (List.reverse_perm other).symm)
  have honceBack : SettersOnce settings.reverse := honce.perm (List.reverse_perm settings).symm
  have hcolumns := findSome?_eq_of_perm hperm
    (honce.pairwise (fun _ _ => columns?_eq_some_iff) fun _ _ => rfl)
  have hargument := findSome?_eq_of_perm hperm
    (honce.pairwise (fun _ _ => argument?_eq_some_iff) fun _ _ => rfl)
  have hfilter := findSome?_eq_of_perm hperm
    (honce.pairwise (fun _ _ => rowLevelFilter?_eq_some_iff) fun _ _ => rfl)
  have hids := findSome?_eq_of_perm hperm
    (honce.pairwise (fun _ _ => prependRowId?_eq_some_iff) fun _ _ => rfl)
  have hmodeBack := findSome?_eq_of_perm hback
    (honceBack.pairwise (fun _ _ => mode?_eq_some_iff) fun _ _ => rfl)
  have hidsBack := findSome?_eq_of_perm hback
    (honceBack.pairwise (fun _ _ => prependRowId?_eq_some_iff) fun _ _ => rfl)
  rw [ScanConfig.told, ScanConfig.told, hcolumns, hargument, hfilter, hids, hmodeBack, hidsBack]

end ScanSetting

namespace ScanPlan

open ScanSetting

variable {settings other : List ScanSetting}

/-- Sound settings make the plan of their description, if they choose a schema. -/
theorem ofSettings_of_sound (h : Sound settings) :
    ofSettings settings =
      match settings.findSome? (·.content.choice?) with
      | some choice => ofConfig (.told choice settings)
      | none => .error .missingSchema := by
  have hholds := ScanDraft.holds_foldl_set settings
  rw [ofSettings, ScanDraft.build, ScanDraft.error_foldl_set_eq_none_iff.2 h, hholds.schema,
    hholds.columns, hholds.searchArgument, hholds.rowLevelFilter, hholds.mode, hholds.transactional,
    hholds.prependRowId]
  cases settings.findSome? (·.content.choice?) <;> rfl

/-- The first setting that is wrong is reported, whatever is set after it. -/
theorem ofSettings_of_wrongAfter {earlier later : List ScanSetting} {s : ScanSetting} {e : ConfigError}
    (h : Sound earlier) (hwrong : s.WrongAfter earlier e) :
    ofSettings (earlier ++ s :: later) = .error e := by
  have herror : ((earlier ++ [s]).foldl ScanDraft.set {}).error = some e :=
    (ScanDraft.error_foldl_set_append (ScanDraft.error_foldl_set_eq_none_iff.2 h) s e).2 hwrong
  rw [ofSettings, List.append_cons, List.foldl_append, ScanDraft.build,
    ScanDraft.error_foldl_set_of_error herror]

theorem ofSettings_of_perm (h : Sound settings) (honce : SettersOnce settings)
    (hperm : settings.Perm other) : ofSettings other = ofSettings settings := by
  rw [ofSettings_of_sound h, ofSettings_of_sound (h.perm hperm),
    ← findSome?_eq_of_perm hperm (pairwise_choice?_of_sound h)]
  cases settings.findSome? (·.content.choice?) with
  | none => rfl
  | some choice => exact congrArg ofConfig (told_eq_of_perm honce hperm).symm

/-- The first setting that is wrong after those before it is what a scan is refused for, whatever is set
after it. If none is wrong, a scan without a setting about the schema lacks one, and any other is what
its settings describe: each tells its part, the last where there may be several, and the rest has its
default. The order of sound settings makes no difference then, if every setter is used at most once. -/
theorem ofSettings_first_wrong (settings : List ScanSetting) :
    (∀ earlier s later e, settings = earlier ++ s :: later → Sound earlier → s.WrongAfter earlier e →
      ofSettings settings = .error e) ∧
    (¬Sound settings → ∃ earlier s later e, settings = earlier ++ s :: later ∧ Sound earlier ∧
      s.WrongAfter earlier e) ∧
    (Sound settings → (∀ s ∈ settings, s.subject ≠ .schema) →
      ofSettings settings = .error .missingSchema) ∧
    (Sound settings → ∀ s ∈ settings, s.subject = .schema → ∃ choice, s.content.choice? = some choice ∧
      ofSettings settings = ofConfig (.told choice settings)) ∧
    (Sound settings → SettersOnce settings → ∀ other, settings.Perm other →
      ofSettings other = ofSettings settings) := by
  refine ⟨?_, exists_first_wrong, ?_, ?_, fun h honce _ => ofSettings_of_perm h honce⟩
  · rintro earlier s later e rfl hearlier hwrong
    exact ofSettings_of_wrongAfter hearlier hwrong
  · intro h hnone
    have hchoice : settings.findSome? (·.content.choice?) = none := by
      rw [List.findSome?_eq_none_iff]
      intro s hs
      cases s with
      | declaredSchema | declaredFields | schemaFromSource => exact absurd rfl (hnone _ hs)
      | _ => rfl
    rw [ofSettings_of_sound h, hchoice]
  · intro h s hs hsubject
    obtain ⟨choice, hchoice⟩ := exists_choice?_of_sound h hs hsubject
    refine ⟨choice, hchoice, ?_⟩
    rw [ofSettings_of_sound h, findSome?_eq_some_of_mem hs hchoice (pairwise_choice?_of_sound h)]

/-- Of two settings that are wrong the first is reported, and settings about priced wares make the plan
that they describe, in the opposite order, too. -/
theorem ofSettings_first_wrong_pricedWares :
    ofSettings [.columns ["a"], .rowLevelFilter true, .columns ["b", "B"], .declaredFields [⟨" ", .list
      (.primitive .int)⟩], .schemaFromSource] = .error (.alreadySet .columns) ∧
    ofSettings [.projectionMode .requireAll, .transactional true, .projectionMode .lenient] =
      .error .missingSchema ∧
    (∃ choice, ofSettings pricedWaresSettings = ofConfig (.told choice pricedWaresSettings)) ∧
    ofSettings pricedWaresSettings.reverse = ofSettings pricedWaresSettings := by
  have hsound {settings : List ScanSetting} (h : (settings.foldl ScanDraft.set {}).error = none) :
      Sound settings := ScanDraft.error_foldl_set_eq_none_iff.1 h
  have hwares : Sound pricedWaresSettings := hsound (by decide +kernel)
  refine ⟨?_, ?_, ?_, ?_⟩
  · exact (ofSettings_first_wrong _).1 [.columns ["a"], .rowLevelFilter true] _ _ _ rfl
      (hsound (by decide +kernel)) (.columnsAgain List.mem_cons_self)
  · exact (ofSettings_first_wrong _).2.2.1 (hsound rfl) (by decide)
  · obtain ⟨choice, -, hplan⟩ := (ofSettings_first_wrong _).2.2.2.1 hwares
      (.declaredFields ScanConfig.wareSchema.fields) (by simp [pricedWaresSettings]) rfl
    exact ⟨choice, hplan⟩
  · have honce : SettersOnce pricedWaresSettings := by
      rw [SettersOnce]
      decide
    exact (ofSettings_first_wrong _).2.2.2.2 hwares honce _
      (List.reverse_perm pricedWaresSettings).symm

end ScanPlan

end ColumnScan
