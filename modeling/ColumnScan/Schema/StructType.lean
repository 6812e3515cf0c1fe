import ColumnScan.Schema.Fault
import ColumnScan.Text.Blank
import ColumnScan.Text.CaseMap

/-!
# Structs

A struct is an ordered list of named fields; it is also the shape of a whole row. Names are
compared in lower case: those of a struct are neither blank nor repeated, which the struct carries with
it, and every look-up goes by the lower-case name. Main statement: `checkNames_eq_ok_iff`, the names
that pass are those in order.
-/

namespace ColumnScan

namespace StructType

/-- The lower-case name by which a field is found. -/
def key (field : Field) : String := Text.lowercase field.name

/-- No two fields have the same name, case aside. -/
def DistinctNames (fields : List Field) : Prop := (fields.map key).Nodup

instance (fields : List Field) : Decidable (DistinctNames fields) :=
  inferInstanceAs (Decidable (fields.map key).Nodup)

/-- The names of a struct are neither blank nor repeated, case aside. -/
def ProperNames (fields : List Field) : Prop :=
  (∀ f ∈ fields, Text.isBlank f.name = false) ∧ DistinctNames fields

instance (fields : List Field) : Decidable (ProperNames fields) :=
  inferInstanceAs (Decidable (_ ∧ _))

/-- Fields whose names are those of fields in order are in order too. -/
theorem ProperNames.of_names {fields others : List Field} (h : ProperNames fields)
    (hnames : others.map (·.name) = fields.map (·.name)) : ProperNames others := by
  have hkeys (fs : List Field) : fs.map key = (fs.map (·.name)).map Text.lowercase := by
    rw [List.map_map]
    rfl
  constructor
  · intro f hf
    obtain ⟨g, hg, hname⟩ := List.mem_map.1 (hnames ▸ List.mem_map_of_mem hf)
    exact hname ▸ h.1 g hg
  · rw [DistinctNames, hkeys, hnames, ← hkeys]
    exact h.2

end StructType

/-- The fields of a struct in order. -/
@[ext]
structure StructType where
  fields : List Field
  proper : StructType.ProperNames fields
deriving DecidableEq

namespace StructType

theorem distinct (s : StructType) : DistinctNames s.fields := s.proper.2

/-- The struct as a type. -/
def type (s : StructType) : DataType := .struct s.fields

/-- A struct as it is written. -/
def text (s : StructType) : String := s.type.text

/-- The number of fields. -/
def size (s : StructType) : Nat := s.fields.length

/-- The declared names in order. -/
def names (s : StructType) : List String := s.fields.map (·.name)

/-- The field at a position. -/
def field? (s : StructType) (ordinal : Nat) : Option Field := s.fields[ordinal]?

/-- The position of the first field with this lower-case name. -/
def indexOfKey? (s : StructType) (k : String) : Option Nat :=
  s.fields.findIdx? fun field => key field == k

/-- The first field with this lower-case name and its position. -/
def lookupKey? (s : StructType) (k : String) : Option (Nat × Field) := do
  let ordinal ← s.indexOfKey? k
  let field ← s.field? ordinal
  return (ordinal, field)

/-- The position of the first field with this name, case aside. -/
def indexOf? (s : StructType) (name : String) : Option Nat := s.indexOfKey? (Text.lowercase name)

/-- The first field with this name, case aside, and its position. -/
def lookup? (s : StructType) (name : String) : Option (Nat × Field) :=
  s.lookupKey? (Text.lowercase name)

/-! ## Checking names -/

/-- Checks names in order; `seen` holds the lower-case names before them. -/
def checkNames (seen : List String) : List Field → Except SchemaError Unit
  | [] => .ok ()
  | field :: rest =>
    if Text.isBlank field.name then .error .blankColumn
    else if key field ∈ seen then .error (.duplicateColumn field.name)
    else checkNames (key field :: seen) rest

/-- Names pass exactly when none is blank, none is repeated and none has been seen, case aside. -/
theorem checkNames_eq_ok_iff {seen : List String} {fields : List Field} :
    checkNames seen fields = .ok () ↔
      (∀ f ∈ fields, Text.isBlank f.name = false) ∧ DistinctNames fields ∧
        ∀ f ∈ fields, key f ∉ seen := by
  induction fields generalizing seen with
  | nil => exact iff_of_true rfl ⟨nofun, List.nodup_nil, nofun⟩
  | cons f rest ih =>
    have hdistinct : DistinctNames (f :: rest) ↔ (∀ g ∈ rest, key g ≠ key f) ∧ DistinctNames rest := by
      simp [DistinctNames, eq_comm]
    rw [checkNames, hdistinct, List.forall_mem_cons, List.forall_mem_cons]
    split
    next hblank => simp [hblank]
    next hblank =>
      split
      next hseen => simp [hseen]
      next hseen =>
        -- The names seen grow, so what they hold keeps later names from being the same.
        rw [ih]
        simp only [List.mem_cons, not_or, Bool.eq_false_iff.2 hblank, hseen, not_false_eq_true,
          true_and]
        constructor
        · rintro ⟨hblank, hdistinct, hrest⟩
          exact ⟨hblank, ⟨fun g hg => (hrest g hg).1, hdistinct⟩, fun g hg => (hrest g hg).2⟩
        · rintro ⟨hblank, ⟨hfirst, hdistinct⟩, hrest⟩
          exact ⟨hblank, hdistinct, fun g hg => ⟨hfirst g hg, hrest g hg⟩⟩

theorem checkNames_nil_eq_ok_iff {fields : List Field} :
    checkNames [] fields = .ok () ↔ ProperNames fields := by
  rw [checkNames_eq_ok_iff, ProperNames]
  simp

/-- The struct with these fields; its names must not be blank or repeated. -/
def ofFields (fields : List Field) : Except SchemaError StructType :=
  match h : checkNames [] fields with
  | .ok () => .ok ⟨fields, checkNames_nil_eq_ok_iff.1 h⟩
  | .error e => .error e

theorem ofFields_eq_ok_iff {fields : List Field} {s : StructType} :
    ofFields fields = .ok s ↔ ProperNames fields ∧ s.fields = fields := by
  rw [ofFields]
  split
  next h =>
    rw [Except.ok.injEq, StructType.ext_iff, and_iff_right (checkNames_nil_eq_ok_iff.1 h)]
    exact eq_comm
  next e h =>
    refine iff_of_false nofun fun hproper => ?_
    rw [checkNames_nil_eq_ok_iff.2 hproper.1] at h
    cases h

theorem ofFields_of_proper {fields : List Field} (proper : ProperNames fields) :
    ofFields fields = .ok ⟨fields, proper⟩ :=
  ofFields_eq_ok_iff.2 ⟨proper, rfl⟩

/-- The fields of a struct make the struct again. -/
theorem ofFields_fields (s : StructType) : ofFields s.fields = .ok s := ofFields_of_proper s.proper

/-- Checks the parameters of every type in the struct. -/
def validate (s : StructType) : Except SchemaError Unit := DataType.validateFields s.fields

end StructType

/-- A struct that is put together column by column and checked at the end. -/
structure StructDraft where
  fields : List Field := []

namespace StructDraft

/-- One more column. -/
def column (d : StructDraft) (name : String) (type : DataType) : StructDraft :=
  ⟨d.fields ++ [⟨name, type⟩]⟩

/-- All columns of a struct. -/
def columnsOf (d : StructDraft) (s : StructType) : StructDraft := ⟨d.fields ++ s.fields⟩

/-- The finished struct. -/
def build (d : StructDraft) : Except SchemaError StructType := StructType.ofFields d.fields

end StructDraft

end ColumnScan
