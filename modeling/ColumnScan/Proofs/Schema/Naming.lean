import ColumnScan.Proofs.Schema.Coding
import ColumnScan.Proofs.Text.LowerCase
import Mathlib.Data.List.TakeWhile

/-!
# Names and positions

The names of a struct stand apart: none is blank once it is trimmed, and no two are the same in lower
case. So a name leads to one position at most, and the name of a field leads back to the field, however
often it is brought to lower case on the way. This holds of every struct, whether it is made of fields,
put together column by column, or read from JSON or from arrays, and of the structs inside what is read.
Main statements: `madeOf_ofFields` and `madeOf_build`, when there is a struct and which name is reported
otherwise; `StructType.decode_eq_some_iff` and `Columnar.schemaOf_eq_ok_iff`, when one is read;
`Columnar.wellNamed_of_dataType`, the structs inside; and `StructType.made_apart_and_indexed`.
-/

namespace ColumnScan

/-! ## Trimmed names -/

namespace Text

theorem trimChars_eq_nil_iff {cs : List Char} :
    trimChars cs = [] ↔ ∀ c ∈ cs, isBlankChar c = true := by
  rw [trimChars, List.reverse_eq_nil_iff, List.dropWhile_eq_nil_iff]
  constructor
  · intro h c hc
    -- A character is among the blanks that are cut off in front, or it is still there.
    rw [← List.takeWhile_append_dropWhile (p := isBlankChar) (l := cs)] at hc
    rcases List.mem_append.1 hc with hc | hc
    · exact List.mem_takeWhile_imp hc
    · exact h c (List.mem_reverse.2 hc)
  · intro h c hc
    exact h c (List.dropWhile_subset _ (List.mem_reverse.1 hc))

theorem trim_eq_empty_iff {s : String} : trim s = "" ↔ isBlank s = true := by
  rw [isBlank_iff, ← trimChars_eq_nil_iff, trim, ← String.toList_inj, String.toList_ofList]
  rfl

theorem trim_ne_empty_iff {s : String} : trim s ≠ "" ↔ isBlank s = false := by
  rw [Ne, trim_eq_empty_iff, Bool.not_eq_true]

end Text

namespace StructType

variable {s : StructType} {fields : List Field} {e : SchemaError}

/-! ## Names apart -/

/-- None of the names is blank once it is trimmed, and no two are the same in lower case. -/
def NamesApart (names : List String) : Prop :=
  (∀ name ∈ names, Text.trim name ≠ "") ∧
    names.Pairwise fun m n => Text.lowercase m ≠ Text.lowercase n

instance (names : List String) : Decidable (NamesApart names) :=
  inferInstanceAs (Decidable (_ ∧ _))

/-- What keeps a name from standing after others: it is blank, or one of them is the same in lower
case. -/
inductive NameFault (before : List String) (name : String) : SchemaError → Prop where
  | blank (blank : Text.trim name = "") : NameFault before name .blankColumn
  | repeated (named : Text.trim name ≠ "")
      (again : ∃ earlier ∈ before, Text.lowercase earlier = Text.lowercase name) :
      NameFault before name (.duplicateColumn name)

/-- The first fault in a list of names: what keeps a name from standing after those before it, which stand
apart. -/
def FirstFault (names : List String) (e : SchemaError) : Prop :=
  ∃ before name after, names = before ++ name :: after ∧ NamesApart before ∧ NameFault before name e

theorem properNames_iff_namesApart : ProperNames fields ↔ NamesApart (fields.map (·.name)) := by
  refine and_congr ?_ ?_
  · rw [List.forall_mem_map]
    exact forall₂_congr fun f _ => Text.trim_ne_empty_iff.symm
  · rw [DistinctNames, List.nodup_iff_pairwise_ne, List.pairwise_map, List.pairwise_map]
    rfl

theorem mem_map_key_iff {f : Field} : key f ∈ fields.map key ↔
    ∃ earlier ∈ fields.map (·.name), Text.lowercase earlier = Text.lowercase f.name := by
  rw [List.mem_map]
  constructor
  · rintro ⟨g, hg, hsame⟩
    exact ⟨g.name, List.mem_map_of_mem hg, hsame⟩
  · rintro ⟨name, hname, hsame⟩
    obtain ⟨g, hg, rfl⟩ := List.mem_map.1 hname
    exact ⟨g, hg, hsame⟩

theorem badName_iff_nameFault {before : List Field} {f : Field} :
    BadName (before.map key) f e ↔ NameFault (before.map (·.name)) f.name e := by
  constructor
  · rintro (hblank | ⟨hnamed, hagain⟩)
    · exact .blank (Text.trim_eq_empty_iff.2 hblank)
    · exact .repeated (Text.trim_ne_empty_iff.2 hnamed) (mem_map_key_iff.1 hagain)
  · rintro (hblank | ⟨hnamed, hagain⟩)
    · exact .blank (Text.trim_eq_empty_iff.1 hblank)
    · exact .repeated (Text.trim_ne_empty_iff.1 hnamed) (mem_map_key_iff.2 hagain)

theorem ofFields_eq_error_iff_firstFault :
    ofFields fields = .error e ↔ FirstFault (fields.map (·.name)) e := by
  rw [ofFields_eq_error_iff]
  constructor
  · rintro ⟨before, f, after, rfl, hproper, hbad⟩
    refine ⟨before.map (·.name), f.name, after.map (·.name), ?_,
      properNames_iff_namesApart.1 hproper, badName_iff_nameFault.1 hbad⟩
    rw [List.map_append, List.map_cons]
  · rintro ⟨_, _, _, hsplit, hapart, hfault⟩
    -- The name at fault is that of a field, and those before it are names of the fields before it.
    obtain ⟨before, rest, rfl, rfl, hrest⟩ := List.map_eq_append_iff.1 hsplit
    obtain ⟨f, after, rfl, rfl, rfl⟩ := List.map_eq_cons_iff.1 hrest
    exact ⟨before, f, after, rfl, properNames_iff_namesApart.2 hapart,
      badName_iff_nameFault.2 hfault⟩

/-! ## Positions -/

/-- The names of the struct stand apart, a name leads to the field that has it, case aside, and to no
other, and the name of a field leads back to it, also after it was brought to lower case. -/
structure Indexed (s : StructType) : Prop where
  apart : NamesApart s.names
  indexOf?_iff (name : String) (i : Nat) : s.indexOf? name = some i ↔
    ∃ f, s.field? i = some f ∧ Text.lowercase f.name = Text.lowercase name
  lookup?_iff (name : String) (i : Nat) (f : Field) : s.lookup? name = some (i, f) ↔
    s.field? i = some f ∧ Text.lowercase f.name = Text.lowercase name
  own_name (i : Nat) (f : Field) (at_i : s.field? i = some f) : s.indexOf? f.name = some i ∧
    s.indexOf? (Text.lowercase f.name) = some i ∧
    s.indexOf? (Text.lowercase (Text.lowercase f.name)) = some i

/-- Every struct is indexed by its names, since it is made of names in order. -/
theorem indexed (s : StructType) : s.Indexed := by
  have hindex : ∀ name i, s.indexOf? name = some i ↔
      ∃ f, s.field? i = some f ∧ Text.lowercase f.name = Text.lowercase name :=
    fun _ _ => indexOfKey?_eq_some_iff
  constructor
  · exact properNames_iff_namesApart.1 s.proper
  · exact hindex
  · intro name i f
    exact ⟨means_of_lookup?, Means.lookup?_eq⟩
  · intro i f hf
    rw [hindex, hindex, hindex, Text.lowercase_lowercase, Text.lowercase_lowercase]
    exact ⟨⟨f, hf, rfl⟩, ⟨f, hf, rfl⟩, ⟨f, hf, rfl⟩⟩

/-- What comes of making a struct of the fields: a struct exactly when their names stand apart, and it
is indexed by them; else the first fault. -/
structure MadeOf (fields : List Field) (made : Except SchemaError StructType) : Prop where
  ok_iff (s : StructType) : made = .ok s ↔ NamesApart (fields.map (·.name)) ∧ s.fields = fields
  exists_iff : (∃ s, made = .ok s) ↔ NamesApart (fields.map (·.name))
  error_iff (e : SchemaError) : made = .error e ↔ FirstFault (fields.map (·.name)) e
  indexed (s : StructType) (h : made = .ok s) : s.Indexed

theorem madeOf_ofFields (fields : List Field) : MadeOf fields (ofFields fields) := by
  constructor
  · intro s
    rw [ofFields_eq_ok_iff, properNames_iff_namesApart]
  · rw [← properNames_iff_namesApart]
    exact ⟨fun ⟨_, h⟩ => (ofFields_eq_ok_iff.1 h).1, fun h => ⟨_, ofFields_of_proper h⟩⟩
  · intro e
    exact ofFields_eq_error_iff_firstFault
  · intro s _
    exact s.indexed

end StructType

/-! ## Column by column -/

namespace StructDraft

/-- What a draft is extended by: a column, or all columns of a struct. -/
inductive Part where
  | column (name : String) (type : DataType)
  | columnsOf (s : StructType)

/-- The fields that a part brings. -/
def Part.fields : Part → List Field
  | .column name type => [⟨name, type⟩]
  | .columnsOf s => s.fields

/-- The draft with one more part. -/
def add (d : StructDraft) : Part → StructDraft
  | .column name type => d.column name type
  | .columnsOf s => d.columnsOf s

theorem fields_add (d : StructDraft) (part : Part) : (d.add part).fields = d.fields ++ part.fields := by
  cases part <;> rfl

theorem fields_foldl_add (d : StructDraft) (parts : List Part) :
    (parts.foldl add d).fields = d.fields ++ parts.flatMap Part.fields := by
  induction parts generalizing d with
  | nil => rw [List.foldl_nil, List.flatMap_nil, List.append_nil]
  | cons part rest ih =>
    rw [List.foldl_cons, ih, fields_add, List.flatMap_cons, List.append_assoc]

theorem madeOf_build (parts : List Part) :
    StructType.MadeOf (parts.flatMap Part.fields) (parts.foldl add {}).build := by
  have hfields : (parts.foldl add {}).fields = parts.flatMap Part.fields := fields_foldl_add {} parts
  rw [build, hfields]
  exact StructType.madeOf_ofFields _

end StructDraft

/-! ## Structs in types -/

/-- Every struct in the type is one that is indexed by its names. -/
def DataType.Indexed (type : DataType) : Prop :=
  ∀ fields, .struct fields ∈ type.nodes → ∃ s : StructType, s.fields = fields ∧ s.Indexed

theorem DataType.WellNamed.indexed {type : DataType} (h : type.WellNamed) : type.Indexed :=
  fun fields hfields => ⟨⟨fields, wellNamed_iff.1 h fields hfields⟩, rfl, StructType.indexed _⟩

/-! ## JSON -/

/-- A struct is read from the list of its fields. -/
theorem StructType.decode_eq_some_iff {j : Json} {s : StructType} :
    decode j = some s ↔ ∃ items fields, j = .array items ∧
      DataType.decodeFields items = some fields ∧ NamesApart (fields.map (·.name)) ∧
      s.fields = fields := by
  constructor
  · intro h
    cases j with
    | array items =>
      obtain ⟨fields, hfields, hs⟩ := Option.bind_eq_some_iff.1 h
      split at hs
      · next made hmade =>
        obtain rfl := Option.some.inj hs
        exact ⟨items, fields, rfl, hfields, ((madeOf_ofFields fields).ok_iff made).1 hmade⟩
      · cases hs
    | _ => cases h
  · rintro ⟨items, fields, rfl, hfields, hmade⟩
    rw [decode, hfields, Option.bind_eq_bind, Option.bind_some,
      ((madeOf_ofFields fields).ok_iff s).2 hmade]

/-! ## Arrays -/

namespace Columnar

open DataType (throughout_primitive throughout_list throughout_map throughout_union)
open StructType (NamesApart FirstFault ProperNames)

variable {slots : List PhysicalField} {fields : List Field}

/-- Fields have the names of the arrays that hold them. -/
theorem names_dataTypeFields (h : dataTypeFields slots = .ok fields) :
    fields.map (·.name) = slots.map (·.name) := by
  induction slots generalizing fields with
  | nil =>
    cases h
    rfl
  | cons slot rest ih =>
    obtain ⟨first, _, h⟩ := bind_eq_ok_iff.1 h
    obtain ⟨others, hothers, h⟩ := bind_eq_ok_iff.1 h
    obtain rfl := pure_eq_ok_iff.1 h
    rw [List.map_cons, List.map_cons, ih hothers]

theorem schemaOf_eq_ok_iff {s : StructType} : schemaOf slots = .ok s ↔
    ∃ fields, dataTypeFields slots = .ok fields ∧ NamesApart (slots.map (·.name)) ∧
      s.fields = fields := by
  rw [schemaOf, bind_eq_ok_iff]
  refine exists_congr fun fields => and_congr_right fun hfields => ?_
  rw [mapError_eq_ok_iff, (StructType.madeOf_ofFields fields).ok_iff, names_dataTypeFields hfields]

/-- Arrays do not make a schema when one of them holds no type, or else at the first fault in their
names. -/
theorem schemaOf_eq_error_iff {e : StorageError} : schemaOf slots = .error e ↔
    dataTypeFields slots = .error e ∨ (∃ fields, dataTypeFields slots = .ok fields) ∧
      ∃ fault, FirstFault (slots.map (·.name)) fault ∧ e = .schema fault := by
  rw [schemaOf, bind_eq_error_iff, ← exists_and_right]
  refine or_congr_right (exists_congr fun fields => and_congr_right fun hfields => ?_)
  rw [← names_dataTypeFields hfields]
  simp only [← (StructType.madeOf_ofFields fields).error_iff]
  cases StructType.ofFields fields <;> simp [Except.mapError, eq_comm]

theorem structOf_eq_ok_iff {type : DataType} :
    structOf fields = .ok type ↔ ProperNames fields ∧ type = .struct fields := by
  have hmade : structOf fields =
      ((StructType.ofFields fields).mapError StorageError.schema).map StructType.type := by
    rw [structOf]
    cases StructType.ofFields fields <;> rfl
  rw [hmade, map_eq_ok_iff]
  simp only [mapError_eq_ok_iff, StructType.ofFields_eq_ok_iff]
  constructor
  · rintro ⟨s, ⟨hproper, rfl⟩, rfl⟩
    exact ⟨hproper, rfl⟩
  · rintro ⟨hproper, rfl⟩
    exact ⟨⟨fields, hproper⟩, ⟨hproper, rfl⟩, rfl⟩

/-- What an array is read as is one of five forms, built from what its parts are read as. -/
theorem dataType_cases {name : String} {metadata : List (String × String)} {array : PhysicalType}
    {type : DataType} (h : dataType name metadata array = .ok type) :
    (∃ kind, type = .primitive kind) ∨
    (∃ slots fields, array = .struct slots ∧ dataTypeFields slots = .ok fields ∧
      ProperNames fields ∧ type = .struct fields) ∨
    (∃ item element, array = .list item ∧ dataType item.name item.metadata item.type = .ok element ∧
      type = .list element) ∨
    (∃ entries nullable notes sorted k v key value,
      array = .map ⟨entries, .struct [k, v], nullable, notes⟩ sorted ∧
      dataType k.name k.metadata k.type = .ok key ∧ dataType v.name v.metadata v.type = .ok value ∧
      type = .map key value) ∨
    ∃ slots refusal variants, array = .union .dense slots ∧
      dataTypeVariants refusal 0 slots = .ok variants ∧ type = .union variants := by
  cases array with
  | struct slots =>
    obtain ⟨fields, hfields, h⟩ := bind_eq_ok_iff.1 h
    obtain ⟨hproper, rfl⟩ := structOf_eq_ok_iff.1 h
    exact .inr (.inl ⟨slots, fields, rfl, hfields, hproper, rfl⟩)
  | list item =>
    obtain ⟨element, helement, h⟩ := bind_eq_ok_iff.1 h
    obtain rfl := pure_eq_ok_iff.1 h
    exact .inr (.inr (.inl ⟨item, element, rfl, helement, rfl⟩))
  | map entries sorted =>
    -- Entries have to be a struct of two: the keys and the values.
    obtain ⟨entriesName, array, nullable, notes⟩ := entries
    cases array with
    | struct slots =>
      match slots with
      | [k, v] =>
        obtain ⟨key, hkey, h⟩ := bind_eq_ok_iff.1 h
        obtain ⟨value, hvalue, h⟩ := bind_eq_ok_iff.1 h
        obtain rfl := pure_eq_ok_iff.1 h
        exact .inr (.inr (.inr (.inl ⟨_, _, _, _, k, v, key, value, rfl, hkey, hvalue, rfl⟩)))
      | [] | [_] | _ :: _ :: _ :: _ => cases h
    | _ => cases h
  | union mode slots =>
    cases mode with
    | sparse => cases h
    | dense =>
      obtain ⟨variants, hvariants, h⟩ := bind_eq_ok_iff.1 h
      obtain rfl := pure_eq_ok_iff.1 h
      exact .inr (.inr (.inr (.inr ⟨slots, _, variants, rfl, hvariants, rfl⟩)))
  | utf8 | largeUtf8 =>
    -- Text may be bounded, but is a scalar either way.
    obtain ⟨kind, _, h⟩ := bind_eq_ok_iff.1 h
    exact .inl ⟨kind, (pure_eq_ok_iff.1 h).symm⟩
  | decimal128 precision scale =>
    rw [dataType] at h
    split_ifs at h
    exact .inl ⟨_, (Except.ok.inj h).symm⟩
  | timestamp unit zone =>
    cases unit <;> cases zone <;> cases h
    exact .inl ⟨_, rfl⟩
  | _ => cases h <;> exact .inl ⟨_, rfl⟩

mutual

theorem wellNamed_of_dataType : (array : PhysicalType) → {name : String} →
    {metadata : List (String × String)} → {type : DataType} →
    dataType name metadata array = .ok type → type.WellNamed
  | array, _, _, type, h => by
    rcases dataType_cases h with ⟨kind, rfl⟩ | ⟨slots, fields, rfl, hfields, hproper, rfl⟩ |
      ⟨⟨_, item, _, _⟩, element, rfl, helement, rfl⟩ |
      ⟨_, _, _, _, ⟨_, k, _, _⟩, ⟨_, v, _, _⟩, key, value, rfl, hkey, hvalue, rfl⟩ |
      ⟨slots, _, variants, rfl, hvariants, rfl⟩
    · exact throughout_primitive.2 rfl
    · exact DataType.wellNamed_struct_iff.2 ⟨hproper, wellNamed_of_dataTypeFields slots hfields⟩
    · exact throughout_list.2 ⟨rfl, wellNamed_of_dataType item helement⟩
    · exact throughout_map.2 ⟨rfl, wellNamed_of_dataType k hkey, wellNamed_of_dataType v hvalue⟩
    · exact throughout_union.2 ⟨rfl, wellNamed_of_dataTypeVariants slots hvariants⟩

theorem wellNamed_of_dataTypeFields : (slots : List (Slot PhysicalType)) → {fields : List Field} →
    dataTypeFields slots = .ok fields → ∀ f ∈ fields, f.type.WellNamed
  | [], _, h => by
    cases h
    exact nofun
  | ⟨_, array, _, _⟩ :: rest, _, h => by
    obtain ⟨first, hfirst, h⟩ := bind_eq_ok_iff.1 h
    obtain ⟨others, hothers, h⟩ := bind_eq_ok_iff.1 h
    obtain rfl := pure_eq_ok_iff.1 h
    exact List.forall_mem_cons.2
      ⟨wellNamed_of_dataType array hfirst, wellNamed_of_dataTypeFields rest hothers⟩

theorem wellNamed_of_dataTypeVariants : (slots : List (Int8 × Slot PhysicalType)) →
    {refusal : StorageError} → {index : Nat} → {variants : List DataType} →
    dataTypeVariants refusal index slots = .ok variants → ∀ type ∈ variants, type.WellNamed
  | [], _, _, _, h => by
    cases h
    exact nofun
  | (_, ⟨_, array, _, _⟩) :: rest, _, _, _, h => by
    rw [dataTypeVariants] at h
    split_ifs at h
    obtain ⟨first, hfirst, h⟩ := bind_eq_ok_iff.1 h
    obtain ⟨others, hothers, h⟩ := bind_eq_ok_iff.1 h
    obtain rfl := pure_eq_ok_iff.1 h
    exact List.forall_mem_cons.2
      ⟨wellNamed_of_dataType array hfirst, wellNamed_of_dataTypeVariants rest hothers⟩

end

theorem wellNamed_of_schemaOf {s : StructType} (h : schemaOf slots = .ok s) : s.type.WellNamed := by
  obtain ⟨fields, hfields, hapart, rfl⟩ := schemaOf_eq_ok_iff.1 h
  rw [← names_dataTypeFields hfields] at hapart
  exact DataType.wellNamed_struct_iff.2
    ⟨StructType.properNames_iff_namesApart.2 hapart, wellNamed_of_dataTypeFields slots hfields⟩

end Columnar

namespace StructType

open Columnar (dataTypeFields schemaOf fieldType)

/-- Fields make a struct exactly when none of their names is blank once it is trimmed and no two are
the same in lower case; otherwise the first name that is blank or repeats an earlier one is reported. A
struct that is made is indexed by its names: a name stands for the position of the one field that has it,
case aside. The same holds of structs put together from columns and from the columns of other structs,
and of those that are read from JSON or from arrays, where the structs inside are indexed as well. -/
theorem made_apart_and_indexed :
    (∀ fields, MadeOf fields (ofFields fields)) ∧
    (∀ parts : List StructDraft.Part,
      MadeOf (parts.flatMap StructDraft.Part.fields) (parts.foldl StructDraft.add {}).build) ∧
    ((∀ j s, decode j = some s ↔ ∃ items fields, j = .array items ∧
        DataType.decodeFields items = some fields ∧ NamesApart (fields.map (·.name)) ∧
          s.fields = fields) ∧
      (∀ j s, decode j = some s → s.Indexed ∧ s.type.Indexed) ∧
      ∀ j type, DataType.decode j = some type → type.Indexed) ∧
    (∀ slots s, schemaOf slots = .ok s ↔ ∃ fields, dataTypeFields slots = .ok fields ∧
        NamesApart (slots.map (·.name)) ∧ s.fields = fields) ∧
      (∀ slots e, schemaOf slots = .error e ↔ dataTypeFields slots = .error e ∨
        (∃ fields, dataTypeFields slots = .ok fields) ∧
          ∃ fault, FirstFault (slots.map (·.name)) fault ∧ e = .schema fault) ∧
      (∀ slots s, schemaOf slots = .ok s → s.Indexed ∧ s.type.Indexed) ∧
      ∀ slot type, fieldType slot = .ok type → type.Indexed := by
  have hinside {s : StructType} (h : s.type.WellNamed) : s.Indexed ∧ s.type.Indexed :=
    ⟨s.indexed, h.indexed⟩
  refine ⟨madeOf_ofFields, StructDraft.madeOf_build, ⟨?_, ?_, ?_⟩, ?_, ?_, ?_, ?_⟩
  · exact fun _ _ => decode_eq_some_iff
  · exact fun _ _ h => hinside (wellNamed_of_decode h)
  · exact fun j _ h => (DataType.wellNamed_of_decode j h).indexed
  · exact fun _ _ => Columnar.schemaOf_eq_ok_iff
  · exact fun _ _ => Columnar.schemaOf_eq_error_iff
  · exact fun _ _ h => hinside (Columnar.wellNamed_of_schemaOf h)
  · exact fun slot _ h => (Columnar.wellNamed_of_dataType slot.type h).indexed

/-- Names whose lower case has one letter more, or ends in a final sigma. -/
def streetFields : List Field :=
  [⟨"İl", .primitive .string⟩, ⟨"ΟΔΟΣ", .struct [⟨"ΌΝΟΜΑ", .primitive .string⟩]⟩]

/-- A street. -/
def street : StructType := ⟨streetFields, by decide +kernel⟩

/-- Two more columns, of which the second repeats a name. -/
def streetParts : List StructDraft.Part :=
  [.columnsOf street, .column "οδοσ" (.primitive .int), .column "οδος" (.primitive .int)]

theorem made_apart_and_indexed_streetFields :
    (∃ s, ofFields streetFields = .ok s ∧ s.indexOf? "i\u0307l" = some 0 ∧
      s.indexOf? "Οδος" = some 1 ∧ s.indexOf? "οδοσ" = none) ∧
    (streetParts.foldl StructDraft.add {}).build = .error (.duplicateColumn "οδος") ∧
    (∃ s, decode (encode street) = some s ∧ s.type.Indexed) ∧
    ∃ slots s, schemaOf slots = .ok s ∧ s.fields = streetFields ∧ s.type.Indexed := by
  obtain ⟨hfields, hparts, ⟨hread, hjson, _⟩, hschema, _, harrays, _⟩ := made_apart_and_indexed
  have hapart : NamesApart (streetFields.map (·.name)) := by decide +kernel
  have hmade : ofFields streetFields = .ok street := ((hfields _).ok_iff _).2 ⟨hapart, rfl⟩
  have hindex := ((hfields _).indexed _ hmade).indexOf?_iff
  refine ⟨⟨_, hmade, ?_, ?_, ?_⟩, ?_, ?_, ?_⟩
  · exact (hindex _ _).2 ⟨_, rfl, by decide +kernel⟩
  · exact (hindex _ _).2 ⟨_, rfl, by decide +kernel⟩
  · decide +kernel
  · have hsplit : (streetParts.flatMap StructDraft.Part.fields).map (·.name) =
        ["İl", "ΟΔΟΣ", "οδοσ"] ++ "οδος" :: [] := rfl
    have hfault : NameFault ["İl", "ΟΔΟΣ", "οδοσ"] "οδος" (.duplicateColumn "οδος") :=
      .repeated (by decide +kernel) (by decide +kernel)
    exact ((hparts _).error_iff _).2 ⟨_, _, _, hsplit, by decide +kernel, hfault⟩
  · have hdecoded : decode (encode street) = some street :=
      (hread _ _).2 ⟨_, _, rfl, rfl, hapart, rfl⟩
    exact ⟨_, hdecoded, (hjson _ _ hdecoded).2⟩
  · have hslots : schemaOf [⟨"İl", .largeUtf8, true, []⟩,
        ⟨"ΟΔΟΣ", .struct [⟨"ΌΝΟΜΑ", .utf8, true, []⟩], false, []⟩] = .ok street :=
      (hschema _ _).2 ⟨_, rfl, hapart, rfl⟩
    exact ⟨_, _, hslots, rfl, (harrays _ _ hslots).2⟩

end StructType

end ColumnScan
