import ColumnScan.Proofs.Predicate.Blobs
import ColumnScan.Proofs.Scan.Columns

/-!
# Columns that a scan reads twice

The columns that leaves look at are added to those asked for unless they are there already. Leaves
find their columns by lower-case names, but whether a column is there is asked with the letters a to z
alone regardless of case. So a leaf that spells any other letter in another case than the schema adds
its column again, and the scan is refused for a repeated name. Main statement:
`ScanPlan.openOver_repeats`, this is the only way in which names keep a scan from opening.
-/

namespace ColumnScan

/-! ## Errors that are not about names -/

/-- A name is blank or repeated. -/
def SchemaError.isNameFault : SchemaError → Bool
  | .blankColumn | .duplicateColumn _ => true
  | _ => false

/-- A name is blank or repeated, whichever part of a scan says so. -/
def Error.isNameFault : Error → Bool
  | .schema e | .evaluator (.schema e) | .storage (.schema e) | .config (.schema e) => e.isNameFault
  | .config (.duplicateColumn _) => true
  | _ => false

/-- If it fails, then not because a name is blank or repeated. -/
def NamesStand {α : Type} (x : Except Error α) : Prop := FailsBy (fun e => e.isNameFault = false) x

theorem ColumnProjection.namesStand_ofRequest (read actual : StructType) (mode : ProjectionMode) :
    NamesStand (ofRequest read actual mode) := by
  refine FailsBy.bind (failsBy_foldlM (fun found field => ?_) _ _) fun _ => failsBy_ok _
  unfold locate
  split
  · split
    · exact failsBy_ok _
    · exact failsBy_error rfl
  · split
    · exact failsBy_error rfl
    · exact failsBy_ok _

theorem RowSource.namesStand_project (source : RowSource) (ordinals : List Nat) :
    NamesStand ((source.project ordinals).mapError .storage) := by
  refine FailsBy.mapError _ ?_
  induction source generalizing ordinals with
  | memory s => exact failsBy_ok _
  | file s =>
    refine FailsBy.map _ ?_
    rw [FileSource.project]
    split
    · exact failsBy_error rfl
    · exact failsBy_ok _
  | envelope view inner ih => exact (ih Envelope.ordinals).bind fun _ => failsBy_ok _

namespace Evaluator

/-- If no leaf is bound, then not because a name is blank or repeated. -/
abbrev Binds {α : Type} (x : Except EvaluatorError α) : Prop :=
  FailsBy (fun e => (Error.evaluator e).isNameFault = false) x

theorem binds_coerceAll (field : Field) (kind : Kind) (literals : List Literal) :
    Binds (coerceAll field kind literals) := by
  induction literals with
  | nil => exact failsBy_ok _
  | cons literal rest ih =>
    rw [coerceAll]
    split
    · exact failsBy_error rfl
    · exact ih.map _

theorem binds_bindField (leaf : Leaf) (field : Field) (kind : Kind) :
    Binds (bindField leaf field kind) := by
  unfold bindField
  split
  · exact failsBy_error rfl
  · refine (binds_coerceAll field kind _).bind fun literals => ?_
    split
    · exact failsBy_ok _
    · exact failsBy_error rfl

theorem binds_make (schema : StructType) (leaf : Leaf) : Binds (make schema leaf) := by
  rw [make]
  split
  · exact failsBy_error rfl
  · split
    · exact failsBy_error rfl
    · next kind _ =>
      refine FailsBy.bind (FailsBy.mapError _ ?_) fun _ => binds_bindField leaf _ kind
      rw [Kind.validate]
      split
      · exact failsBy_error rfl
      · exact failsBy_ok _

theorem binds_makeAll (schema : StructType) (leaves : List Leaf) :
    Binds (makeAll schema leaves) := by
  induction leaves with
  | nil => exact failsBy_ok _
  | cons leaf rest ih =>
    exact (binds_make schema leaf).bind fun _ => ih.bind fun _ => failsBy_ok _

end Evaluator

theorem ScanPlan.namesStand_filter (resolved : StructType) (argument? : Option SearchArgument) :
    NamesStand (filter resolved argument?) := by
  cases argument? with
  | none => exact failsBy_ok _
  | some argument =>
    exact FailsBy.mapError _ (((Evaluator.binds_makeAll resolved argument.leaves).map _).map _)

/-! ## Columns that are added again -/

namespace StructType

variable {fields more : List Field} {g : Field}

/-- The first name that repeats one of proper names is reported. -/
theorem ofFields_repeated (hproper : ProperNames fields) (hg : g ∈ fields) :
    ofFields (fields ++ g :: more) = .error (.duplicateColumn g.name) :=
  ofFields_of_badName hproper (.repeated (hproper.1 g hg) (List.mem_map_of_mem hg))

theorem mem_of_has {s : StructType} (h : s.Has g) : g ∈ s.fields := by
  obtain ⟨i, hi⟩ := h
  exact List.mem_of_getElem? (lookupKey?_eq_some hi).2.1

/-- A column of a struct goes with others of the struct if it is none of them. -/
theorem ProperNames.append_singleton {s : StructType} (hfields : ProperNames fields)
    (hhas : ∀ f ∈ fields, s.Has f) (hg : s.Has g) (hnew : g ∉ fields) :
    ProperNames (fields ++ [g]) := by
  have hkey : key g ∉ fields.map key := by
    intro hmem
    obtain ⟨f, hf, hsame⟩ := List.mem_map.1 hmem
    exact hnew ((hhas f hf).eq_of_key_eq hg hsame ▸ hf)
  constructor
  · exact List.forall_mem_append.2
      ⟨hfields.1, List.forall_mem_singleton.2 (s.proper.1 g (mem_of_has hg))⟩
  · rw [DistinctNames, List.map_append, List.map_singleton, ← List.concat_eq_append]
    exact List.Nodup.concat hkey hfields.2

end StructType

namespace ScanPlan

open StructType (key Has ProperNames)

variable {resolved : StructType}

/-- A leaf looks at the column by a name that differs from the declared one in more than the case of
the letters a to z, though the column is read already: it was asked for, or a leaf before looks at
it. -/
def ReadsAgain (resolved : StructType) (fields : List Field) (leaves : List Leaf) (field : Field) :
    Prop :=
  ∃ before leaf after i, leaves = before ++ leaf :: after ∧
    resolved.lookup? leaf.column = some (i, field) ∧
    Text.equalIgnoringAsciiCase field.name leaf.column = false ∧
    (field ∈ fields ∨ ∃ earlier ∈ before, ∃ j, resolved.lookup? earlier.column = some (j, field))

/-- What one leaf does to the columns read: nothing, or it adds its column, which is there already or
is not. -/
theorem withLeaf_cases {fields : List Field} {leaf : Leaf} {i : Nat} {g : Field}
    (hhas : ∀ f ∈ fields, resolved.Has f) (h : resolved.lookup? leaf.column = some (i, g)) :
    (g ∈ fields ∧ Text.equalIgnoringAsciiCase g.name leaf.column = true ∧
      withLeaf resolved fields leaf = fields) ∨
    (withLeaf resolved fields leaf = fields ++ [g] ∧
      (g ∈ fields → Text.equalIgnoringAsciiCase g.name leaf.column = false)) := by
  rw [withLeaf]
  split
  next hany =>
    obtain ⟨f, hf, hsame⟩ := List.any_eq_true.1 hany
    have hkey : key f = key g := (Text.lowercase_eq_of_equalIgnoringAsciiCase hsame).trans
      (StructType.lookupKey?_eq_some h).2.2.symm
    obtain rfl := (hhas f hf).eq_of_key_eq (StructType.has_of_lookup? h) hkey
    exact .inl ⟨hf, hsame, rfl⟩
  next hany =>
    rw [h]
    refine .inr ⟨rfl, fun hg => Bool.eq_false_iff.2 fun hsame => hany ?_⟩
    exact List.any_eq_true.2 ⟨g, hg, hsame⟩

/-- A later leaf reads a column again if it does so once the first leaf has looked at its own. -/
theorem readsAgain_cons_iff {fields : List Field} {leaf : Leaf} {leaves : List Leaf} {i : Nat}
    {g field : Field} (hhas : ∀ f ∈ fields, resolved.Has f)
    (h : resolved.lookup? leaf.column = some (i, g)) :
    ReadsAgain resolved fields (leaf :: leaves) field ↔
      (field = g ∧ Text.equalIgnoringAsciiCase g.name leaf.column = false ∧ g ∈ fields) ∨
        ReadsAgain resolved (withLeaf resolved fields leaf) leaves field := by
  have hmem : ∀ f, f ∈ withLeaf resolved fields leaf ↔ f ∈ fields ∨ f = g := by
    intro f
    rcases withLeaf_cases hhas h with ⟨hg, _, heq⟩ | ⟨heq, _⟩
    · rw [heq]
      exact ⟨.inl, fun hf => hf.elim id fun hf => hf ▸ hg⟩
    · rw [heq, List.mem_append, List.mem_singleton]
  constructor
  · rintro ⟨before, other, after, j, hsplit, hlookup, hspelled, hread⟩
    cases before with
    | nil =>
      obtain ⟨rfl, rfl⟩ := List.cons.inj hsplit
      rw [h] at hlookup
      obtain ⟨rfl, rfl⟩ := Prod.mk.inj (Option.some.inj hlookup)
      rcases hread with hread | ⟨_, hearlier, _⟩
      · exact .inl ⟨rfl, hspelled, hread⟩
      · cases hearlier
    | cons first before =>
      obtain ⟨rfl, rfl⟩ := List.cons.inj hsplit
      refine .inr ⟨before, other, after, j, rfl, hlookup, hspelled, ?_⟩
      rw [hmem]
      rcases hread with hread | ⟨earlier, hearlier, k, hk⟩
      · exact .inl (.inl hread)
      · rcases List.mem_cons.1 hearlier with rfl | hearlier
        · rw [h] at hk
          exact .inl (.inr (Prod.mk.inj (Option.some.inj hk)).2.symm)
        · exact .inr ⟨earlier, hearlier, k, hk⟩
  · rintro (⟨rfl, hspelled, hread⟩ | ⟨before, other, after, j, rfl, hlookup, hspelled, hread⟩)
    · exact ⟨[], leaf, leaves, i, rfl, h, hspelled, .inl hread⟩
    · refine ⟨leaf :: before, other, after, j, rfl, hlookup, hspelled, ?_⟩
      rw [hmem] at hread
      rcases hread with (hread | rfl) | ⟨earlier, hearlier, hk⟩
      · exact .inl hread
      · exact .inr ⟨leaf, List.mem_cons_self, i, h⟩
      · exact .inr ⟨earlier, List.mem_cons_of_mem _ hearlier, hk⟩

/-- The names of the columns read stay in order as long as no leaf reads a column again; then the columns
make no struct, because of such a column. -/
theorem ofFields_foldl_withLeaf {leaves : List Leaf} {fields : List Field}
    (hleaves : ∀ leaf ∈ leaves, ∃ i field, resolved.lookup? leaf.column = some (i, field))
    (hhas : ∀ f ∈ fields, resolved.Has f) (hfields : ProperNames fields) :
    (ProperNames (leaves.foldl (withLeaf resolved) fields) ∧
      ∀ field, ¬ReadsAgain resolved fields leaves field) ∨
    ∃ field, ReadsAgain resolved fields leaves field ∧
      StructType.ofFields (leaves.foldl (withLeaf resolved) fields) =
        .error (.duplicateColumn field.name) := by
  induction leaves generalizing fields with
  | nil =>
    refine .inl ⟨hfields, ?_⟩
    rintro field ⟨before, leaf, after, i, hsplit, _⟩
    cases before <;> cases hsplit
  | cons leaf leaves ih =>
    obtain ⟨⟨i, g, hleaf⟩, hrest⟩ := List.forall_mem_cons.1 hleaves
    have hg : resolved.Has g := StructType.has_of_lookup? hleaf
    by_cases hagain : Text.equalIgnoringAsciiCase g.name leaf.column = false ∧ g ∈ fields
    · -- The column stands behind columns in order one of which it is.
      refine .inr ⟨g, (readsAgain_cons_iff hhas hleaf).2 (.inl ⟨rfl, hagain⟩), ?_⟩
      obtain ⟨hspelled, hmem⟩ := hagain
      rcases withLeaf_cases hhas hleaf with ⟨_, hsame, _⟩ | ⟨hadd, _⟩
      · rw [hspelled] at hsame
        cases hsame
      · have hmore : Extends resolved (leaves.map (·.column)) (withLeaf resolved fields leaf)
            (leaves.foldl (withLeaf resolved) (withLeaf resolved fields leaf)) :=
          extends_foldl_withLeaf hrest
        obtain ⟨more, hmore⟩ := hmore.pre
        rw [List.foldl_cons, ← hmore, hadd, List.append_assoc]
        exact StructType.ofFields_repeated hfields hmem
    · have hstep : (∀ f ∈ withLeaf resolved fields leaf, resolved.Has f) ∧
          ProperNames (withLeaf resolved fields leaf) := by
        rcases withLeaf_cases hhas hleaf with ⟨_, _, heq⟩ | ⟨hadd, hspelled⟩
        · rw [heq]
          exact ⟨hhas, hfields⟩
        · rw [hadd]
          have hnew : g ∉ fields := fun hmem => hagain ⟨hspelled hmem, hmem⟩
          refine ⟨?_, hfields.append_singleton hhas hg hnew⟩
          exact List.forall_mem_append.2 ⟨hhas, List.forall_mem_singleton.2 hg⟩
      have hnow : ∀ field, ReadsAgain resolved fields (leaf :: leaves) field ↔
          ReadsAgain resolved (withLeaf resolved fields leaf) leaves field := by
        intro field
        rw [readsAgain_cons_iff hhas hleaf]
        exact or_iff_right fun h => hagain h.2
      simp only [hnow]
      exact ih hrest hstep.1 hstep.2

/-- The leaves that look at columns. -/
def leavesOf (argument? : Option SearchArgument) : List Leaf :=
  match argument? with
  | some argument => argument.leaves
  | none => []

theorem readFields_eq (resolved requested : StructType) (argument? : Option SearchArgument) :
    readFields resolved requested argument? =
      (leavesOf argument?).foldl (withLeaf resolved) requested.fields := by
  cases argument? <;> rfl

/-- What opening does once the schema of the scan, the columns asked for and the search argument are
known. -/
theorem openOver_of_requested {p : ScanPlan} {source inner : RowSource} {requested : StructType}
    {argument? : Option SearchArgument} (hunwrap : p.unwrap source = .ok inner)
    (hrequested : p.requested (p.resolve inner.schema) = .ok requested)
    (hargument : p.argument? = .ok argument?) :
    p.openOver source = do
      let read ← (StructType.ofFields
        (readFields (p.resolve inner.schema) requested argument?)).mapError .schema
      let projection ← ColumnProjection.ofRequest read inner.schema p.config.mode
      let source ← (inner.project projection.ordinals).mapError .storage
      let filter ← filter (p.resolve inner.schema) argument?
      return { RecordReader.ofSource source with
        filter := filter, attachIds := p.config.prependRowId } := by
  rw [openOver, hunwrap]
  show (p.requested (p.resolve inner.schema) >>= _) = _
  rw [hrequested]
  show (p.argument? >>= _) = _
  rw [hargument]
  rfl

/-- Names keep a scan from opening exactly when a leaf reads a column again, and then it is the name of
such a column that is told to be repeated. The names of the columns read are in order exactly when
there is no such leaf. -/
theorem openOver_repeats {p : ScanPlan} {source inner : RowSource} {requested : StructType}
    {argument? : Option SearchArgument} (hunwrap : p.unwrap source = .ok inner)
    (hrequested : p.requested (p.resolve inner.schema) = .ok requested)
    (hargument : p.argument? = .ok argument?)
    (hleaves : ∀ leaf ∈ leavesOf argument?,
      ∃ i field, (p.resolve inner.schema).lookup? leaf.column = some (i, field)) :
    (∀ e, p.openOver source = .error e → e.isNameFault = true →
      ∃ field, ReadsAgain (p.resolve inner.schema) requested.fields (leavesOf argument?) field ∧
        e = .schema (.duplicateColumn field.name)) ∧
    ((∃ field, ReadsAgain (p.resolve inner.schema) requested.fields (leavesOf argument?) field) →
      ∃ e, p.openOver source = .error e ∧ e.isNameFault = true) ∧
    (ProperNames (readFields (p.resolve inner.schema) requested argument?) ↔
      ∀ field, ¬ReadsAgain (p.resolve inner.schema) requested.fields (leavesOf argument?) field) := by
  have hhas := has_of_mem_requested hrequested
  have hopen := openOver_of_requested hunwrap hrequested hargument
  rw [readFields_eq] at hopen ⊢
  rcases ofFields_foldl_withLeaf hleaves hhas requested.proper with
    ⟨hread, hnone⟩ | ⟨field, hagain, hnames⟩
  · have hstand : NamesStand (p.openOver source) := by
      rw [hopen, StructType.ofFields_of_proper hread]
      refine FailsBy.bind (failsBy_ok _) fun read => ?_
      refine FailsBy.bind (ColumnProjection.namesStand_ofRequest _ _ _) fun projection => ?_
      refine FailsBy.bind (inner.namesStand_project _) fun source => ?_
      exact FailsBy.bind (namesStand_filter _ _) fun _ => failsBy_ok _
    refine ⟨fun e he hfault => ?_, fun ⟨field, h⟩ => absurd h (hnone field),
      iff_of_true hread hnone⟩
    rw [hstand e he] at hfault
    cases hfault
  · have herror : p.openOver source = .error (.schema (.duplicateColumn field.name)) := by
      rw [hopen, hnames]
      rfl
    refine ⟨fun e he _ => ?_, fun _ => ⟨_, herror, rfl⟩, iff_of_false ?_ fun h => h field hagain⟩
    · rw [herror] at he
      cases he
      exact ⟨field, hagain, rfl⟩
    · intro hread
      rw [StructType.ofFields_of_proper hread] at hnames
      cases hnames

/-! ## Scans that names keep from opening -/

section

variable {p : ScanPlan} {c : ScanConfig} {a : SearchArgument}

/-- A search argument that comes back from its text is the one by which rows are judged. -/
theorem argument?_eq (htaken : SearchArgument.ofBlob a.toBlob = .ok a)
    (htext : p.config.searchArgument = some a.toBlob) (hfilter : p.config.rowLevelFilter = true) :
    p.argument? = .ok (some a) := by
  rw [argument?, htext, hfilter]
  show ((SearchArgument.ofBlob a.toBlob).map some).mapError Error.predicate = _
  rw [htaken]
  rfl

/-- Without a declared schema only the search argument is checked. -/
theorem check_eq_ok (htaken : SearchArgument.ofBlob a.toBlob = .ok a)
    (hschema : c.schema = .fromSource) (htext : c.searchArgument = some a.toBlob) :
    c.check = .ok () := by
  rw [ScanConfig.check, hschema, htext]
  show (SearchArgument.ofBlob a.toBlob).mapError ConfigError.searchArgument >>= _ = _
  rw [htaken]
  rfl

end

/-- A predicate that looks at one column twice, by its name in lower case. -/
def twoLooks : SearchArgument where
  leaves := [⟨.isNull, "öl", []⟩, ⟨.equals, "öl", [.long 2]⟩]
  expression := .or [.leaf 0, .leaf 1]
  inTable := by decide

theorem ofBlob_twoLooks : SearchArgument.ofBlob twoLooks.toBlob = .ok twoLooks :=
  SearchArgument.ofBlob_of_depth_le (by simp [SearchArgument.FloatFree, twoLooks])
    (fun i hi => Nat.lt_trans (twoLooks.inTable i hi) (by decide)) (by decide)

/-- A source with a column that is declared with a capital letter beyond A to Z. -/
def oilSource : MemorySource :=
  .ofRows ⟨[⟨"id", .primitive .long⟩, ⟨"Öl", .primitive .int⟩], by decide +kernel⟩
    [⟨[.scalar (.long 1), .scalar (.int 2)]⟩, ⟨[.scalar (.long 2), .scalar (.int 3)]⟩]

theorem lookup?_oilSource :
    oilSource.schema.lookup? "öl" = some (1, ⟨"Öl", .primitive .int⟩) := by
  decide +kernel

theorem lookup?_twoLooks : ∀ leaf ∈ twoLooks.leaves,
    ∃ i field, oilSource.schema.lookup? leaf.column = some (i, field) := by
  simp [twoLooks, lookup?_oilSource]

/-- A scan of another column. -/
def idOnly : ScanPlan where
  config := { schema := .fromSource, columns := some ["id"], searchArgument := some twoLooks.toBlob }
  checked := check_eq_ok ofBlob_twoLooks rfl rfl

theorem openOver_repeats_idOnly :
    ∃ e, idOnly.openOver (.memory oilSource) = .error e ∧ e.isNameFault = true ∧
      ∃ field, ReadsAgain oilSource.schema [⟨"id", .primitive .long⟩] twoLooks.leaves field ∧
        e = .schema (.duplicateColumn field.name) := by
  have hunwrap : idOnly.unwrap (.memory oilSource) = .ok (.memory oilSource) := rfl
  have hselected : selectColumns oilSource.schema ["id"] =
      .ok ⟨[⟨"id", .primitive .long⟩], by decide +kernel⟩ := by
    decide +kernel
  have hrequested : idOnly.requested oilSource.schema =
      .ok ⟨[⟨"id", .primitive .long⟩], by decide +kernel⟩ := by
    show (selectColumns oilSource.schema ["id"]).mapError Error.config = _
    rw [hselected]
    rfl
  have hspec := openOver_repeats hunwrap hrequested
    (argument?_eq ofBlob_twoLooks rfl rfl) lookup?_twoLooks
  have hagain : ReadsAgain oilSource.schema [⟨"id", .primitive .long⟩] twoLooks.leaves
      ⟨"Öl", .primitive .int⟩ :=
    ⟨[⟨.isNull, "öl", []⟩], ⟨.equals, "öl", [.long 2]⟩, [], 1, rfl, lookup?_oilSource,
      by decide +kernel, .inr ⟨_, List.mem_singleton_self _, 1, lookup?_oilSource⟩⟩
  obtain ⟨e, he, hfault⟩ := hspec.2.1 ⟨_, hagain⟩
  exact ⟨e, he, hfault, hspec.1 e he hfault⟩

/-- A scan of all columns, so that each leaf looks at one that is asked for. -/
def everything : ScanPlan where
  config := { schema := .fromSource, searchArgument := some twoLooks.toBlob }
  checked := check_eq_ok ofBlob_twoLooks rfl rfl

/-- Every leaf looks at a column that was asked for, and still the scan is refused for a repeated
name. -/
theorem exists_openOver_duplicateColumn :
    ∃ (p : ScanPlan) (source : RowSource) (requested : StructType) (a : SearchArgument),
      p.unwrap source = .ok source ∧
      p.requested (p.resolve source.schema) = .ok requested ∧ p.argument? = .ok (some a) ∧
      (∀ leaf ∈ a.leaves, ∃ i field,
        (p.resolve source.schema).lookup? leaf.column = some (i, field)) ∧
      p.openOver source = .error (.schema (.duplicateColumn "Öl")) := by
  refine ⟨everything, .memory oilSource, oilSource.schema, twoLooks, rfl, rfl,
    argument?_eq ofBlob_twoLooks rfl rfl, lookup?_twoLooks, ?_⟩
  have hnames : StructType.ofFields (readFields oilSource.schema oilSource.schema (some twoLooks)) =
      .error (.duplicateColumn "Öl") := by decide +kernel
  rw [openOver_of_requested rfl rfl (argument?_eq ofBlob_twoLooks rfl rfl)]
  show (StructType.ofFields (readFields oilSource.schema oilSource.schema
    (some twoLooks))).mapError _ >>= _ = _
  rw [hnames]
  rfl

end ScanPlan

end ColumnScan
