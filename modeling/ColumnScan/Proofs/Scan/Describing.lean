import ColumnScan.Proofs.Schema.Coding
import ColumnScan.Scan.Plan

/-!
# Descriptions of scans come back from their texts

A description of a scan is sent as a text and read where the scan runs, so both ends have to mean the
same scan. Main statement: `ScanConfig.ofJson_toJson`.
-/

namespace ColumnScan

open Json (Coded)

theorem ProjectionMode.ofName?_name (m : ProjectionMode) : ofName? m.name = some m := by
  cases m <;> decide

namespace SchemaChoice

/-- The structs of a declared schema have names in order, at whatever depth, as those that are made by
`StructType.ofFields` do. -/
def WellNamed (c : SchemaChoice) : Prop :=
  ∀ schema, c = .declared schema → ∀ fields, .struct fields ∈ schema.type.nodes →
    StructType.ProperNames fields

theorem wellNamed_declared_iff {schema : StructType} :
    WellNamed (.declared schema) ↔ schema.type.WellNamed := by
  rw [DataType.wellNamed_iff]
  exact ⟨fun h => h schema rfl, fun h s hs => by cases hs; exact h⟩

/-- What is no text is the choice of a schema if its content is a schema. -/
theorem decode_declared (j : Json) :
    decode (.choice "Declared" j) = (StructType.decode j).map declared := by
  have hplain : (Json.choice "Declared" j).plainChoice? ≠ some "FromSource" := by
    show (Json.object [(some "Declared", j)]).plainChoice? ≠ some "FromSource"
    cases j <;> simp [Json.plainChoice?]
  rw [decode, if_neg hplain]
  rfl

theorem coded {c : SchemaChoice} (h : c.WellNamed) : Coded encode decode c := by
  cases c with
  | declared schema =>
    exact (StructType.coded (wellNamed_declared_iff.1 h)).choice rfl rfl decode_declared
  | fromSource => exact Json.coded_scalar (.string _) rfl rfl

theorem wellNamed_of_decode {j : Json} {c : SchemaChoice} (h : decode j = some c) :
    c.WellNamed := by
  rw [decode] at h
  split_ifs at h
  · obtain rfl := Option.some.inj h
    exact nofun
  · obtain ⟨schema, hschema, rfl⟩ := Option.map_eq_some_iff.1 h
    obtain ⟨content, _, hcontent⟩ := Option.bind_eq_some_iff.1 hschema
    exact wellNamed_declared_iff.2 (StructType.wellNamed_of_decode hcontent)

end SchemaChoice

namespace ScanConfig

theorem coded_columns (columns : Option (List String)) :
    Coded (Json.ofOption fun names => .array (names.map Json.ofString))
      (Json.toOption? (Json.toList? Json.toText?)) columns :=
  .option (fun _ _ => .list fun _ _ => Json.coded_text _) fun _ d _ => by cases d <;> nofun

theorem coded_argument (argument : Option String) :
    Coded (Json.ofOption Json.ofString) (Json.toOption? Json.toText?) argument :=
  .option (fun _ _ => Json.coded_text _) fun _ _ _ => nofun

theorem coded {c : ScanConfig} (h : c.schema.WellNamed) : Coded encode decode c := by
  have hschema := SchemaChoice.coded h
  have hcolumns := coded_columns c.columns
  have hargument := coded_argument c.searchArgument
  refine ⟨Json.wellWritten_ofMembers ⟨hschema.written, hcolumns.written, hargument.written,
      .bool _, .string _, .bool _, .bool _⟩, fun d => ?_⟩
  cases d with
  | zero => rfl
  | succ d =>
    rw [decode, encode, Json.record?_cut]
    · show ((SchemaChoice.decode (c.schema.encode.cut d)).bind fun schema =>
        (Json.toOption? _ ((Json.ofOption _ c.columns).cut d)).bind fun columns =>
        (Json.toOption? _ ((Json.ofOption _ c.searchArgument).cut d)).bind fun argument =>
        (some c.rowLevelFilter).bind fun filter =>
        (ProjectionMode.ofName? c.mode.name).bind fun mode =>
        (some c.transactional).bind fun transactional =>
        (some c.prependRowId).bind fun prependRowId =>
          some (⟨schema, columns, argument, filter, mode, transactional, prependRowId⟩ :
            ScanConfig)) = _
      rw [hschema.decoded, hcolumns.decoded, hargument.decoded, ProjectionMode.ofName?_name]
      simp only [Json.bind_ite_some, Option.bind_some, Json.ite_ite_depth]
      exact if_congr (by simp [Json.ofMembers, Json.depth, Json.depthMembers, Json.ofString]) rfl rfl
    · rfl
    · decide

theorem wellNamed_of_decode {j : Json} {c : ScanConfig} (h : decode j = some c) :
    c.schema.WellNamed := by
  obtain ⟨parts, _, h⟩ := Option.bind_eq_some_iff.1 h
  split at h
  · obtain ⟨schema, hschema, h⟩ := Option.bind_eq_some_iff.1 h
    simp only [Option.bind_eq_bind, Option.bind_eq_some_iff, Option.pure_def,
      Option.some.injEq] at h
    obtain ⟨_, _, _, _, _, _, _, _, _, _, _, _, rfl⟩ := h
    exact SchemaChoice.wellNamed_of_decode hschema
  · cases h

/-- A description is read from its text as it was, unless the text is nested deeper than a reader goes,
and gives the same plan or is refused for the same reason. Whatever text is read as a description, the
structs of its schema have names in order, at whatever depth. -/
theorem ofJson_toJson :
    (∀ c : ScanConfig, c.schema.WellNamed →
      ofJson c.toJson = (if c.encode.depth ≤ Json.maxDepth then .ok c else .error .undecodable) ∧
      (c.encode.depth ≤ Json.maxDepth →
        (ofJson c.toJson >>= ScanPlan.ofConfig) = ScanPlan.ofConfig c)) ∧
    ∀ text c, ofJson text = .ok c → c.schema.WellNamed := by
  have hread : ∀ c : ScanConfig, c.schema.WellNamed →
      ofJson c.toJson =
        if c.encode.depth ≤ Json.maxDepth then .ok c else .error .undecodable := by
    intro c hnamed
    rw [ofJson, toJson, (coded hnamed).read_print]
    split_ifs <;> rfl
  refine ⟨fun c hnamed => ⟨hread c hnamed, fun hdepth => ?_⟩, fun text c h => ?_⟩
  · rw [hread c hnamed, if_pos hdepth]
    rfl
  · rw [ofJson] at h
    split at h
    · next c' hc' =>
      obtain rfl := Except.ok.inj h
      obtain ⟨j, _, hj⟩ := Option.bind_eq_some_iff.1 hc'
      exact wellNamed_of_decode hj
    · cases h

/-- Structs in a union in a map in a list, a column with quotes, and a text in the text. -/
def nested : ScanConfig where
  schema := .declared ⟨[⟨"Größe", .primitive (.decimal 10 2)⟩, ⟨"tags \"x\"", .list (.map
    (.primitive (.varchar 7)) (.union [.struct [⟨"a", .primitive .long⟩, ⟨"É", .struct []⟩],
      .primitive .binary]))⟩], by decide +kernel⟩
  columns := some ["TAGS \"x\"", "größe"]
  searchArgument := some "[[],\x7b\"Constant\":\"Unknown\"\x7d]"
  rowLevelFilter := false
  mode := .requireAll

theorem ofJson_toJson_nested :
    nested.schema.WellNamed ∧ nested.encode.depth ≤ Json.maxDepth ∧
      ofJson nested.toJson = .ok nested ∧
      (ofJson nested.toJson >>= ScanPlan.ofConfig) = ScanPlan.ofConfig nested := by
  have hnamed : nested.schema.WellNamed :=
    SchemaChoice.wellNamed_declared_iff.2 (by decide +kernel)
  have hdepth : nested.encode.depth ≤ Json.maxDepth := by decide
  have htaken : ofJson nested.toJson = .ok nested := by
    rw [(ofJson_toJson.1 nested hnamed).1, if_pos hdepth]
  exact ⟨ofJson_toJson.2 _ nested htaken, hdepth, htaken, (ofJson_toJson.1 nested hnamed).2 hdepth⟩

end ScanConfig

end ColumnScan
