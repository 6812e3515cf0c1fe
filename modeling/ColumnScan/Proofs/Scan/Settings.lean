import ColumnScan.Proofs.Scan.Columns
import ColumnScan.Proofs.Scan.Envelopes
import ColumnScan.Scan.Draft

/-!
# A scan by its settings and by its description

The same scan can be drafted setting by setting or described as a whole. If every setting is made once, in
whatever order, the draft holds what the description holds, and the plan is that of the description unless
a column is listed twice. A declared schema refuses such a list in either way; without one only the draft
does. Main statements: `ScanConfig.madeBy_settings`, the descriptions that settings can make;
`ScanDraft.foldl_set_ofConfig`, what the settings leave in a draft; and `ScanPlan.ofSettings_of_madeBy`.
-/

namespace ColumnScan

/-! ## Columns listed twice -/

/-- No name is repeated exactly when the names differ in lower case, from each other and from those seen. -/
theorem firstRepeated?_eq_none_iff {seen names : List String} :
    firstRepeated? seen names = none ↔
      (names.map Text.lowercase).Nodup ∧ ∀ name ∈ names, Text.lowercase name ∉ seen := by
  induction names generalizing seen with
  | nil => exact iff_of_true rfl ⟨List.nodup_nil, nofun⟩
  | cons name rest ih =>
    rw [firstRepeated?, List.map_cons, List.nodup_cons, List.forall_mem_cons]
    by_cases hseen : Text.lowercase name ∈ seen
    · rw [if_pos (List.contains_iff_mem.2 hseen)]
      exact iff_of_false nofun fun h => h.2.1 hseen
    · rw [if_neg (mt List.contains_iff_mem.1 hseen), ih]
      simp only [List.mem_cons, not_or, List.mem_map, not_exists, not_and]
      constructor
      · rintro ⟨hdistinct, hrest⟩
        exact ⟨⟨fun other hother => (hrest other hother).1, hdistinct⟩, hseen,
          fun other hother => (hrest other hother).2⟩
      · rintro ⟨⟨hfirst, hdistinct⟩, -, hrest⟩
        exact ⟨hdistinct, fun other hother => ⟨hfirst other hother, hrest other hother⟩⟩

/-- The first name is reported that repeats one before it or one that was seen. -/
theorem firstRepeated?_eq_some_iff {seen names : List String} {name : String} :
    firstRepeated? seen names = some name ↔ ∃ before after, names = before ++ name :: after ∧
      firstRepeated? seen before = none ∧
        Text.lowercase name ∈ before.map Text.lowercase ++ seen := by
  induction names generalizing seen with
  | nil => simp [firstRepeated?]
  | cons first rest ih =>
    by_cases hseen : Text.lowercase first ∈ seen
    · have hcontains := List.contains_iff_mem.2 hseen
      rw [firstRepeated?, if_pos hcontains]
      constructor
      · rintro ⟨⟩
        exact ⟨[], rest, rfl, rfl, hseen⟩
      · rintro ⟨before, after, hsplit, hbefore, -⟩
        cases before with
        | nil =>
          cases hsplit
          rfl
        | cons _ before =>
          cases hsplit
          rw [firstRepeated?, if_pos hcontains] at hbefore
          cases hbefore
    · have hcontains := mt List.contains_iff_mem.1 hseen
      rw [firstRepeated?, if_neg hcontains, ih]
      constructor
      · rintro ⟨before, after, rfl, hbefore, hmem⟩
        refine ⟨first :: before, after, rfl, ?_, List.perm_middle.subset hmem⟩
        rw [firstRepeated?, if_neg hcontains]
        exact hbefore
      · rintro ⟨before, after, hsplit, hbefore, hmem⟩
        cases before with
        | nil =>
          cases hsplit
          exact absurd hmem hseen
        | cons _ before =>
          cases hsplit
          rw [firstRepeated?, if_neg hcontains] at hbefore
          exact ⟨before, after, rfl, hbefore, List.perm_middle.symm.subset hmem⟩

/-- The name that is reported repeats one before it, case aside. -/
theorem mem_of_firstRepeated? {seen names : List String} {name : String}
    (h : firstRepeated? seen names = some name) :
    ∃ before after, names = before ++ name :: after ∧
      (Text.lowercase name ∈ before.map Text.lowercase ∨ Text.lowercase name ∈ seen) := by
  obtain ⟨before, after, hsplit, -, hmem⟩ := firstRepeated?_eq_some_iff.1 h
  exact ⟨before, after, hsplit, List.mem_append.1 hmem⟩

/-! ## Settings that make a description -/

namespace ScanSetting

/-- What a setting is about. -/
inductive Subject where
  | schema
  | columns
  | searchArgument
  | rowLevelFilter
  | mode
  | transactional
deriving DecidableEq

/-- What the setting is about. -/
def subject : ScanSetting → Subject
  | .declaredSchema _ | .declaredFields _ | .schemaFromSource => .schema
  | .columns _ => .columns
  | .searchArgument _ => .searchArgument
  | .rowLevelFilter _ => .rowLevelFilter
  | .projectionMode _ => .mode
  | .transactional _ => .transactional

/-- The setting tells what the description says about its subject. -/
def Tells (c : ScanConfig) : ScanSetting → Prop
  | .declaredSchema schema => c.schema = .declared schema
  | .declaredFields fields => ∃ schema, StructType.ofFields fields = .ok schema ∧
      c.schema = .declared schema
  | .schemaFromSource => c.schema = .fromSource
  | .columns names => c.columns = some names
  | .searchArgument argument => c.searchArgument = some argument.toBlob
  | .rowLevelFilter enabled => c.rowLevelFilter = enabled
  | .projectionMode mode => c.mode = mode
  | .transactional prependRowId => c.transactional = true ∧ c.prependRowId = prependRowId

end ScanSetting

open ScanSetting (Subject)

namespace ScanConfig

/-- The description says nothing about the subject beyond its default; a schema has none. -/
def IsDefaultAt (c : ScanConfig) : Subject → Prop
  | .schema => False
  | .columns => c.columns = none
  | .searchArgument => c.searchArgument = none
  | .rowLevelFilter => c.rowLevelFilter = true
  | .mode => c.mode = .lenient
  | .transactional => c.transactional = false ∧ c.prependRowId = false

/-- The settings, each made once, make the description. -/
structure MadeBy (c : ScanConfig) (settings : List ScanSetting) : Prop where
  once : (settings.map ScanSetting.subject).Nodup
  tells : ∀ s ∈ settings, s.Tells c
  rest : ∀ subject, subject ∉ settings.map ScanSetting.subject → c.IsDefaultAt subject

/-- The setting about the subject that makes the description, unless it is left at its default. -/
def setting? (c : ScanConfig) (argument? : Option SearchArgument) : Subject → Option ScanSetting
  | .schema =>
    match c.schema with
    | .declared schema => some (.declaredSchema schema)
    | .fromSource => some .schemaFromSource
  | .columns => c.columns.map .columns
  | .searchArgument => argument?.map .searchArgument
  | .rowLevelFilter => some (.rowLevelFilter c.rowLevelFilter)
  | .mode => some (.projectionMode c.mode)
  | .transactional => if c.transactional then some (.transactional c.prependRowId) else none

/-- Settings that make the description. -/
def settings (c : ScanConfig) (argument? : Option SearchArgument) : List ScanSetting :=
  [.schema, .columns, .searchArgument, .rowLevelFilter, .mode, .transactional].filterMap
    (c.setting? argument?)

/-- The column that the description lists a second time, if there is one. -/
def repeatedColumn? (c : ScanConfig) : Option String := c.columns >>= firstRepeated? []

/-- No two columns of the description have the same name, case aside. -/
def DistinctColumns (c : ScanConfig) : Prop :=
  ∀ names, c.columns = some names → (names.map Text.lowercase).Nodup

variable {c : ScanConfig}

theorem setting?_eq_some {argument? : Option SearchArgument} {subject : Subject} {s : ScanSetting}
    (hargument : c.searchArgument = argument?.map SearchArgument.toBlob)
    (h : c.setting? argument? subject = some s) : s.subject = subject ∧ s.Tells c := by
  cases subject with
  | schema =>
    rw [setting?] at h
    split at h <;> cases h
    next hschema => exact ⟨rfl, hschema⟩
    next hschema => exact ⟨rfl, hschema⟩
  | columns =>
    obtain ⟨names, hnames, rfl⟩ := Option.map_eq_some_iff.1 h
    exact ⟨rfl, hnames⟩
  | searchArgument =>
    obtain ⟨argument, rfl, rfl⟩ := Option.map_eq_some_iff.1 h
    exact ⟨rfl, hargument⟩
  | rowLevelFilter =>
    cases h
    exact ⟨rfl, rfl⟩
  | mode =>
    cases h
    exact ⟨rfl, rfl⟩
  | transactional =>
    rw [setting?] at h
    split at h <;> cases h
    next htransactional => exact ⟨rfl, htransactional, rfl⟩

theorem isDefaultAt_of_setting? {argument? : Option SearchArgument} {subject : Subject}
    (hargument : c.searchArgument = argument?.map SearchArgument.toBlob)
    (hids : c.transactional = false → c.prependRowId = false)
    (h : c.setting? argument? subject = none) : c.IsDefaultAt subject := by
  cases subject with
  | schema =>
    rw [setting?] at h
    split at h <;> cases h
  | columns => exact Option.map_eq_none_iff.1 h
  | searchArgument => exact hargument.trans (Option.map_eq_none_iff.2 (Option.map_eq_none_iff.1 h))
  | rowLevelFilter => cases h
  | mode => cases h
  | transactional =>
    rw [setting?] at h
    split at h
    · cases h
    next htransactional =>
      have htransactional := Bool.eq_false_iff.2 htransactional
      exact ⟨htransactional, hids htransactional⟩

/-- Any description can be made by settings if its search argument is the text of one and identities are
asked for only along with envelopes. -/
theorem madeBy_settings {argument? : Option SearchArgument}
    (hargument : c.searchArgument = argument?.map SearchArgument.toBlob)
    (hids : c.transactional = false → c.prependRowId = false) :
    c.MadeBy (c.settings argument?) := by
  have hsubject {subject made : Subject}
      (h : made ∈ (c.setting? argument? subject).map ScanSetting.subject) : made = subject := by
    obtain ⟨s, hs, rfl⟩ := Option.map_eq_some_iff.1 h
    exact (setting?_eq_some hargument hs).1
  constructor
  · rw [settings, List.map_filterMap]
    refine List.Nodup.filterMap (fun a b made ha hb => ?_) (by decide)
    exact (hsubject ha).symm.trans (hsubject hb)
  · intro s hs
    obtain ⟨subject, -, hs⟩ := List.mem_filterMap.1 hs
    exact (setting?_eq_some hargument hs).2
  · intro subject hnot
    apply isDefaultAt_of_setting? hargument hids
    cases h : c.setting? argument? subject with
    | none => rfl
    | some s =>
      refine absurd (List.mem_map.2 ⟨s, List.mem_filterMap.2 ⟨subject, ?_, h⟩, ?_⟩) hnot
      · cases subject <;> decide
      · exact (setting?_eq_some hargument h).1

theorem repeatedColumn?_eq_none_iff : c.repeatedColumn? = none ↔ c.DistinctColumns := by
  rw [repeatedColumn?, DistinctColumns]
  cases c.columns with
  | none => exact iff_of_true rfl nofun
  | some names =>
    show firstRepeated? [] names = none ↔ _
    rw [firstRepeated?_eq_none_iff]
    exact ⟨fun h _ heq => Option.some.inj heq ▸ h.1, fun h => ⟨h names rfl, fun _ _ => List.not_mem_nil⟩⟩

/-- A declared schema does not take a list with a column in it twice. -/
theorem distinctColumns_of_check {schema : StructType} (hschema : c.schema = .declared schema)
    (h : c.check = .ok ()) : c.DistinctColumns := by
  intro names hnames
  rw [check, hschema, hnames] at h
  obtain ⟨_, -, h⟩ := bind_eq_ok_iff.1 h
  obtain ⟨selected, hselected, -⟩ := bind_eq_ok_iff.1 h
  exact nodup_of_selectColumns hselected

/-- Without a declared schema the check is about the search argument alone. -/
theorem check_of_fromSource (hschema : c.schema = .fromSource) :
    c.check = .ok () ↔ ∀ blob, c.searchArgument = some blob →
      ∃ argument, SearchArgument.ofBlob blob = .ok argument := by
  rw [check, hschema]
  cases c.searchArgument with
  | none => exact iff_of_true rfl nofun
  | some blob =>
    show ((SearchArgument.ofBlob blob).mapError ConfigError.searchArgument >>= _) = _ ↔ _
    rw [bind_eq_ok_iff]
    simp only [mapError_eq_ok_iff]
    constructor
    · rintro ⟨argument, hread, -⟩ _ ⟨⟩
      exact ⟨argument, hread⟩
    · intro hread
      obtain ⟨argument, hread⟩ := hread blob rfl
      exact ⟨argument, hread, rfl⟩

end ScanConfig

/-! ## Drafts -/

namespace ScanDraft

/-- The draft that holds what the description says about some subjects. -/
def ofConfig (c : ScanConfig) (made : List Subject) : ScanDraft where
  schema := if .schema ∈ made then some c.schema else none
  columns := if .columns ∈ made then c.columns else none
  searchArgument := if .searchArgument ∈ made then c.searchArgument else none
  rowLevelFilter := if .rowLevelFilter ∈ made then some c.rowLevelFilter else none
  mode := if .mode ∈ made then c.mode else .lenient
  transactional := if .transactional ∈ made then c.transactional else false
  prependRowId := if .transactional ∈ made then c.prependRowId else false
  error := if .columns ∈ made then c.repeatedColumn?.map .duplicateColumn else none

variable {c : ScanConfig} {made : List Subject} {settings : List ScanSetting}

theorem chooseSchema_ofConfig (hnew : .schema ∉ made) :
    (ofConfig c made).chooseSchema c.schema = ofConfig c (.schema :: made) := by
  simp [chooseSchema, ofConfig, hnew]

theorem chooseColumns_ofConfig {names : List String} (hcolumns : c.columns = some names)
    (hnew : .columns ∉ made) :
    (ofConfig c made).chooseColumns names = ofConfig c (.columns :: made) := by
  have hrepeated : c.repeatedColumn? = firstRepeated? [] names := by
    rw [ScanConfig.repeatedColumn?, hcolumns]
    rfl
  cases hfirst : firstRepeated? [] names with
  | none => simp [chooseColumns, ofConfig, hnew, hcolumns, hrepeated, hfirst]
  | some name => simp [chooseColumns, ofConfig, hnew, hcolumns, hrepeated, hfirst, fail]

/-- One more setting adds what the description says about its subject. -/
theorem set_ofConfig {s : ScanSetting} (htells : s.Tells c) (hnew : s.subject ∉ made) :
    (ofConfig c made).set s = ofConfig c (s.subject :: made) := by
  cases s with
  | declaredSchema schema =>
    show (ofConfig c made).chooseSchema (.declared schema) = _
    rw [← show c.schema = .declared schema from htells]
    exact chooseSchema_ofConfig hnew
  | declaredFields fields =>
    obtain ⟨schema, hfields, hschema⟩ := htells
    rw [set, hfields]
    show (ofConfig c made).chooseSchema (.declared schema) = _
    rw [← hschema]
    exact chooseSchema_ofConfig hnew
  | schemaFromSource =>
    show (ofConfig c made).chooseSchema .fromSource = _
    rw [← show c.schema = .fromSource from htells]
    exact chooseSchema_ofConfig hnew
  | columns names => exact chooseColumns_ofConfig htells hnew
  | searchArgument | rowLevelFilter | projectionMode | transactional =>
    simp_all [set, ofConfig, ScanSetting.subject, ScanSetting.Tells]

/-- Settings that are each made once add what the description says about their subjects. -/
theorem foldl_set_ofConfig (htells : ∀ s ∈ settings, s.Tells c)
    (honce : (settings.map ScanSetting.subject).Nodup)
    (hnew : ∀ s ∈ settings, s.subject ∉ made) :
    settings.foldl set (ofConfig c made) =
      ofConfig c ((settings.map ScanSetting.subject).reverse ++ made) := by
  induction settings generalizing made with
  | nil => rfl
  | cons s rest ih =>
    obtain ⟨hfirst, hrest⟩ := List.forall_mem_cons.1 htells
    obtain ⟨hnewFirst, hnewRest⟩ := List.forall_mem_cons.1 hnew
    rw [List.map_cons, List.nodup_cons] at honce
    have hother : ∀ t ∈ rest, t.subject ∉ s.subject :: made := by
      intro t ht
      rw [List.mem_cons, not_or]
      exact ⟨fun heq => honce.1 (heq ▸ List.mem_map_of_mem ht), hnewRest t ht⟩
    rw [List.foldl_cons, set_ofConfig hfirst hnewFirst, ih hrest honce.2 hother, List.map_cons,
      List.reverse_cons, List.append_assoc]
    rfl

/-- If it holds all that the description says, it gives the plan of the description, unless a column is
listed twice. -/
theorem build_ofConfig (hrest : ∀ subject, subject ∉ made → c.IsDefaultAt subject) :
    (ofConfig c made).build =
      match c.repeatedColumn? with
      | some name => .error (.duplicateColumn name)
      | none => ScanPlan.ofConfig c := by
  have hschema : (ofConfig c made).schema = some c.schema := if_pos (by_contra (hrest .schema))
  have hcolumns : (ofConfig c made).columns = c.columns :=
    ite_eq_left_iff.2 fun h => (hrest .columns h).symm
  have hargument : (ofConfig c made).searchArgument = c.searchArgument :=
    ite_eq_left_iff.2 fun h => (hrest .searchArgument h).symm
  have hmode : (ofConfig c made).mode = c.mode := ite_eq_left_iff.2 fun h => (hrest .mode h).symm
  have htransactional : (ofConfig c made).transactional = c.transactional :=
    ite_eq_left_iff.2 fun h => (hrest .transactional h).1.symm
  have hids : (ofConfig c made).prependRowId = c.prependRowId :=
    ite_eq_left_iff.2 fun h => (hrest .transactional h).2.symm
  have hfilter : (ofConfig c made).rowLevelFilter.getD true = c.rowLevelFilter := by
    by_cases hmade : .rowLevelFilter ∈ made
    · rw [ofConfig, if_pos hmade]
      rfl
    · rw [ofConfig, if_neg hmade]
      exact (hrest .rowLevelFilter hmade).symm
  have herror : (ofConfig c made).error = c.repeatedColumn?.map .duplicateColumn := by
    refine ite_eq_left_iff.2 fun h => ?_
    rw [ScanConfig.repeatedColumn?, show c.columns = none from hrest .columns h]
    rfl
  rw [build, herror, hschema, hcolumns, hargument, hmode, htransactional, hids, hfilter]
  cases c.repeatedColumn? <;> rfl

end ScanDraft

/-! ## Plans -/

namespace ScanPlan

variable {c : ScanConfig} {settings : List ScanSetting}

/-- The plan of settings that make a description. -/
theorem ofSettings_eq (h : c.MadeBy settings) :
    ofSettings settings =
      match c.repeatedColumn? with
      | some name => .error (.duplicateColumn name)
      | none => ofConfig c := by
  have hdraft : settings.foldl ScanDraft.set {} =
      .ofConfig c ((settings.map ScanSetting.subject).reverse ++ []) :=
    ScanDraft.foldl_set_ofConfig h.tells h.once fun _ _ => List.not_mem_nil
  rw [ofSettings, hdraft, List.append_nil]
  apply ScanDraft.build_ofConfig
  intro subject hsubject
  exact h.rest subject (mt List.mem_reverse.2 hsubject)

theorem config_of_ofConfig {p : ScanPlan} (h : ofConfig c = .ok p) : p.config = c := by
  unfold ofConfig at h
  split at h
  · cases h
    rfl
  · cases h

theorem check_of_ofConfig {p : ScanPlan} (h : ofConfig c = .ok p) : c.check = .ok () :=
  config_of_ofConfig h ▸ p.checked

/-- If settings make a description, they give its plan where it has one and no column is listed twice;
a list with a column in it twice is refused, the second time the column is listed. A declared schema
leaves no plan for a description with such a list, while without one any list has a plan, as long as
the search argument can be read. -/
theorem ofSettings_of_madeBy (h : c.MadeBy settings) :
    (∀ p, ofSettings settings = .ok p ↔ ofConfig c = .ok p ∧ c.DistinctColumns) ∧
    (¬ c.DistinctColumns → ∃ before name after, c.columns = some (before ++ name :: after) ∧
      Text.lowercase name ∈ before.map Text.lowercase ∧
      ofSettings settings = .error (.duplicateColumn name)) ∧
    (∀ schema, c.schema = .declared schema → ∀ p, ofConfig c = .ok p → c.DistinctColumns) ∧
    (c.schema = .fromSource → ((∃ p, ofConfig c = .ok p) ↔ ∀ blob, c.searchArgument = some blob →
      ∃ argument, SearchArgument.ofBlob blob = .ok argument)) ∧
    ∀ p, ofConfig c = .ok p → p.config = c := by
  have hdistinct (hplan : c.DistinctColumns) : ofSettings settings = ofConfig c := by
    rw [ofSettings_eq h, ScanConfig.repeatedColumn?_eq_none_iff.2 hplan]
  have hrepeated (hplan : ¬ c.DistinctColumns) : ∃ before name after,
      c.columns = some (before ++ name :: after) ∧
        Text.lowercase name ∈ before.map Text.lowercase ∧
        ofSettings settings = .error (.duplicateColumn name) := by
    obtain ⟨name, hname⟩ :=
      Option.ne_none_iff_exists'.1 (mt ScanConfig.repeatedColumn?_eq_none_iff.1 hplan)
    obtain ⟨names, hnames, hfirst⟩ := Option.bind_eq_some_iff.1 hname
    obtain ⟨before, after, rfl, hmem⟩ := mem_of_firstRepeated? hfirst
    refine ⟨before, name, after, hnames, hmem.resolve_right List.not_mem_nil, ?_⟩
    rw [ofSettings_eq h, hname]
  refine ⟨fun p => ?_, hrepeated, ?_, ?_, fun p => config_of_ofConfig⟩
  · by_cases hplan : c.DistinctColumns
    · rw [hdistinct hplan]
      exact (and_iff_left hplan).symm
    · obtain ⟨before, name, after, -, -, herror⟩ := hrepeated hplan
      rw [herror]
      exact iff_of_false nofun fun hp => hplan hp.2
  · intro schema hschema p hp
    exact ScanConfig.distinctColumns_of_check hschema (check_of_ofConfig hp)
  · intro hschema
    constructor
    · rintro ⟨p, hp⟩
      exact (ScanConfig.check_of_fromSource hschema).1 (check_of_ofConfig hp)
    · intro hread
      exact ⟨_, ofConfig_of_check ((ScanConfig.check_of_fromSource hschema).2 hread)⟩

/-- A scan of the names and prices of wares in envelopes, with identities. -/
def pricedWares : ScanConfig where
  schema := .declared ScanConfig.wareSchema
  columns := some ["NAME", "price"]
  rowLevelFilter := false
  transactional := true
  prependRowId := true

/-- The settings of the scan, the schema given by its fields and after the columns. -/
def pricedWaresSettings : List ScanSetting :=
  [.transactional true, .columns ["NAME", "price"], .declaredFields ScanConfig.wareSchema.fields,
    .rowLevelFilter false]

theorem ofSettings_of_madeBy_pricedWares :
    pricedWares.MadeBy pricedWaresSettings ∧
      ∃ p, ofSettings pricedWaresSettings = .ok p ∧ p.config = pricedWares := by
  have hmade : pricedWares.MadeBy pricedWaresSettings := by
    refine ⟨by decide, ?_, fun subject => ?_⟩
    · have hfields : StructType.ofFields ScanConfig.wareSchema.fields = .ok ScanConfig.wareSchema := by
        decide +kernel
      simp [pricedWaresSettings, ScanSetting.Tells, pricedWares, hfields]
    · cases subject <;>
        simp [pricedWaresSettings, ScanSetting.subject, ScanConfig.IsDefaultAt, pricedWares]
  obtain ⟨hplans, -, hdeclared, -, hconfig⟩ := ofSettings_of_madeBy hmade
  have hplan := ofConfig_of_check (c := pricedWares) (by decide +kernel)
  exact ⟨hmade, _, (hplans _).2 ⟨hplan, hdeclared _ rfl _ hplan⟩, hconfig _ hplan⟩

/-- A scan that asks for a column twice and takes the schema of the source. -/
def askedTwice : ScanConfig where
  schema := .fromSource
  columns := some ["a", "A"]

/-- A description can have a plan where its settings are refused. -/
theorem exists_ofConfig_askedTwice :
    askedTwice.MadeBy [.schemaFromSource, .columns ["a", "A"]] ∧
      (∃ p, ofConfig askedTwice = .ok p) ∧
      ofSettings [.schemaFromSource, .columns ["a", "A"]] = .error (.duplicateColumn "A") := by
  refine ⟨⟨by decide, ?_, fun subject => ?_⟩, ⟨_, ofConfig_of_check rfl⟩, ?_⟩
  · simp [ScanSetting.Tells, askedTwice]
  · cases subject <;> simp [ScanSetting.subject, ScanConfig.IsDefaultAt, askedTwice]
  · have hrepeated : firstRepeated? [] ["a", "A"] = some "A" := by decide +kernel
    simp [ofSettings, ScanDraft.set, ScanDraft.chooseSchema, ScanDraft.chooseColumns, hrepeated,
      ScanDraft.fail, ScanDraft.build]

end ScanPlan

end ColumnScan
