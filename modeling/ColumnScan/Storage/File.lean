import ColumnScan.Columnar.Batch
import ColumnScan.Storage.Memory

/-!
# Files of columns

A file keeps rows in batches of columns. A sink collects rows and puts them into the file when there
are enough of them for a batch, and at the end; rows that cannot be put in stay where they are. What
a file holds can be read only after it was closed. Unions and structs without fields have no form
there, and a decimal keeps no more digits than the bits that its precision calls for. A source fetches
the rows of a file in batches of a size of its own. Main statement: `FileSource.remaining_next`, a file
that hands out a row has one row less to go.
-/

namespace ColumnScan

open Columnar (Batch Datum PhysicalField PhysicalType Slot)

/-- What is found where a file should be. -/
inductive FileImage where
  | missing
  | unreadable
  | table (slots : List PhysicalField) (batches : List Batch)

/-! ## What a file can hold -/

namespace DataType

mutual

/-- Whether there is a union in the type. -/
def hasUnion : DataType → Bool
  | .primitive _ => false
  | .struct fields => hasUnionFields fields
  | .list element => hasUnion element
  | .map key value => hasUnion key || hasUnion value
  | .union _ => true

/-- Whether there is a union in a field. -/
def hasUnionFields : List (Named DataType) → Bool
  | [] => false
  | ⟨_, type⟩ :: rest => hasUnion type || hasUnionFields rest

end

/-- Whether a file can hold a scalar kind: a decimal has at least one digit and no more places than
digits, and no scale that is negative when its eight bits are read with a sign. -/
def isFileKind : Kind → Bool
  | .decimal precision scale =>
    decide (0 < precision.toNat) && decide (scale.toNat ≤ precision.toNat) &&
      decide (0 ≤ scale.toInt8.toInt)
  | _ => true

mutual

/-- Whether a file can hold a type without unions. -/
def isFileType : DataType → Bool
  | .primitive kind => isFileKind kind
  | .struct fields => !fields.isEmpty && areFileFields fields
  | .list element => isFileType element
  | .map key value => isFileType key && isFileType value
  | .union variants => areFileVariants variants

/-- Whether a file can hold fields. -/
def areFileFields : List (Named DataType) → Bool
  | [] => true
  | ⟨_, type⟩ :: rest => isFileType type && areFileFields rest

/-- Whether a file can hold variants. -/
def areFileVariants : List DataType → Bool
  | [] => true
  | type :: rest => isFileType type && areFileVariants rest

end

end DataType

/-! ## How decimals are kept -/

namespace FileImage

/-- The smallest number of bytes, from `bytes` on, whose signed numbers have so many digits. -/
def bytesFor (precision bytes : Nat) : Nat → Nat
  | 0 => bytes
  | fuel + 1 =>
    if tenPow precision < twoPow (8 * bytes - 1) then bytes else bytesFor precision (bytes + 1) fuel

/-- The number of bits in which the digits of a decimal are kept. -/
def digitBits (precision : Nat) : Nat :=
  if 2 ≤ precision ∧ precision ≤ 9 then 32
  else if precision ≤ 18 then 64
  else 8 * bytesFor precision 1 precision

mutual

/-- An entry as it is after the file has kept it. -/
def keep : PhysicalType → Datum → Datum
  | .decimal128 precision _, .integer n => .integer (wrap (digitBits precision.toNat) n)
  | .struct slots, .struct children => .struct (keepChildren slots children)
  | .list ⟨_, type, _, _⟩, .list items => .list (items.map fun d => keep type d)
  | .map ⟨_, .struct [⟨_, key, _, _⟩, ⟨_, value, _, _⟩], _, _⟩ _, .map entries =>
    .map (entries.map fun e => (keep key e.1, keep value e.2))
  | _, entry => entry

/-- The children of a struct as they are after the file has kept them. -/
def keepChildren : List (Slot PhysicalType) → List Datum → List Datum
  | ⟨_, type, _, _⟩ :: slots, d :: ds => keep type d :: keepChildren slots ds
  | _, ds => ds

end

/-- A batch as it is after the file has kept it. -/
def keepBatch (b : Batch) : Batch where
  size := b.size
  columns := b.columns.map fun c => { c with entries := c.entries.map (keep c.type) }

mutual

/-- The array under which a column is found again: decimals of more than 38 digits get a wider one,
which holds no column of this library. -/
def reopen : PhysicalType → PhysicalType
  | .decimal128 precision scale =>
    if maxPrecision < precision.toNat then .decimal256 precision scale
    else .decimal128 precision scale
  | .struct slots => .struct (reopenSlots slots)
  | .list ⟨name, type, nullable, metadata⟩ => .list ⟨name, reopen type, nullable, metadata⟩
  | .map ⟨name, type, nullable, metadata⟩ sorted =>
    .map ⟨name, reopen type, nullable, metadata⟩ sorted
  | other => other

/-- The arrays under which columns are found again. -/
def reopenSlots : List (Slot PhysicalType) → List (Slot PhysicalType)
  | [] => []
  | ⟨name, type, nullable, metadata⟩ :: rest =>
    ⟨name, reopen type, nullable, metadata⟩ :: reopenSlots rest

end

end FileImage

/-! ## Writing -/

/-- A file that is being written. -/
structure FileSink where
  schema : StructType
  /-- The arrays of the columns. -/
  slots : List PhysicalField
  /-- The number of rows that are put into the file together. -/
  batchSize : Nat
  /-- The rows that are not in the file yet. -/
  pending : List Cells := []
  /-- The batches in the file. -/
  batches : List Batch := []
  isOpen : Bool := true

namespace FileSink

/-- The number of rows that are put into a file together if nothing else is said. -/
def defaultBatchSize : Nat := 1024

/-- A new file. -/
def create (schema : StructType) : Except StorageError FileSink :=
  match schema.fields.find? (·.type.hasUnion) with
  | some field => .error (.unsupported (.unionColumn field.name))
  | none => do
    let slots ← Columnar.layoutSchema schema
    if !DataType.areFileFields schema.fields then .error .file
    return { schema := schema, slots := slots, batchSize := defaultBatchSize }

/-- The file with another size of batches, at least one row. -/
def withBatchSize (s : FileSink) (size : Nat) : FileSink := { s with batchSize := max size 1 }

/-- Puts the pending rows into the file. -/
def flush (s : FileSink) : Except StorageError FileSink :=
  if s.pending.isEmpty then .ok s
  else if !s.isOpen then .error .closed
  else do
    let batch ← Batch.ofRows s.schema s.pending
    return { s with pending := [], batches := s.batches ++ [FileImage.keepBatch batch] }

/-- Adds a row; it stays pending if its batch cannot be put into the file. -/
def write (s : FileSink) (cells : Cells) : Except StorageError Unit × FileSink :=
  if !s.isOpen then (.error .closed, s)
  else
    let grown := { s with pending := s.pending ++ [cells] }
    if grown.pending.length < s.batchSize then (.ok (), grown)
    else
      match grown.flush with
      | .ok flushed => (.ok (), flushed)
      | .error e => (.error e, grown)

/-- Puts the pending rows into the file and finishes it. -/
def close (s : FileSink) : Except StorageError Unit × FileSink :=
  match s.flush with
  | .ok flushed => (.ok (), { flushed with isOpen := false })
  | .error e => (.error e, s)

/-- What is found when the file is opened: nothing readable unless it was closed and has columns. -/
def image (s : FileSink) : FileImage :=
  if s.isOpen || s.slots.isEmpty then .unreadable else .table s.slots s.batches

/-- What is found when rows were written one after the other and the file was closed. -/
def imageOf (s : FileSink) : List Cells → Except StorageError FileImage
  | [] =>
    match s.close with
    | (.ok _, closed) => .ok closed.image
    | (.error e, _) => .error e
  | cells :: rest =>
    match s.write cells with
    | (.ok _, grown) => imageOf grown rest
    | (.error e, _) => .error e

end FileSink

/-! ## Reading -/

/-- A file that is being read. -/
structure FileSource where
  schema : StructType
  /-- All rows of the file. -/
  content : Batch
  /-- The number of rows that are fetched together. -/
  batchSize : Nat := FileSink.defaultBatchSize
  projection : Option (List Nat) := none
  /-- The batches that are not fetched yet, once a row has been asked for. -/
  reader : Option (List Batch) := none
  /-- The positions of the columns that are fetched, ascending. -/
  ordinals : List Nat := []
  /-- The batch that was fetched last. -/
  batch : Option Batch := none
  /-- The place of the next row in that batch. -/
  position : Nat := 0

namespace FileSource

/-- Opens a file. -/
def ofImage : FileImage → Except StorageError FileSource
  | .missing => .error .missingFile
  | .unreadable => .error .file
  | .table slots batches => do
    let schema ← Columnar.schemaOf (FileImage.reopenSlots slots)
    return { schema := schema, content := .join (slots.map (·.type)) batches }

/-- The file whose rows are fetched in batches of another size, at least one row. -/
def withBatchSize (s : FileSource) (size : Nat) : FileSource := { s with batchSize := max size 1 }

/-- The file of which only some columns are read; they are chosen before the first row. -/
def project (s : FileSource) (ordinals : List Nat) : Except StorageError FileSource :=
  if s.reader.isSome then .error (.unsupported .lateProjection)
  else .ok { s with projection := some ordinals }

/-- The positions that are asked for, ascending. -/
def wanted (s : FileSource) : List Nat :=
  match s.projection with
  | some ordinals => ascending (ordinals.filter fun i => decide (i < s.schema.size))
  | none => List.range s.schema.size

/-- The batches that are not fetched yet. -/
def toCome (s : FileSource) : List Batch :=
  s.reader.getD ((s.content.select s.wanted).cut s.batchSize)

/-- The file from which rows are read: what is asked of it is settled with the first row. -/
def start (s : FileSource) : FileSource :=
  if s.reader.isSome then s else { s with ordinals := s.wanted, reader := some s.toCome }

/-- The row at hand, if the batch fetched last has any left; one that cannot be read is not passed. -/
def current? (s : FileSource) : Option (Fetched × FileSource) :=
  match s.batch with
  | none => none
  | some b =>
    if s.position < b.size then
      match b.readRow s.schema s.ordinals s.position with
      | (.ok _, cells) => some (.row cells, { s with position := s.position + 1 })
      | (.error e, cells) => some (.failed e (some cells), s)
    else none

/-- Fetches one of these batches after the other until there is a row at hand. -/
def fetch (s : FileSource) : List Batch → Fetched × FileSource
  | [] => (.exhausted, { s with reader := some [], batch := none })
  | b :: rest =>
    let fetched := { s with reader := some rest, batch := some b, position := 0 }
    match fetched.current? with
    | some answer => answer
    | none => fetched.fetch rest

/-- The next row. -/
def next (s : FileSource) : Fetched × FileSource :=
  match s.current? with
  | some answer => answer
  | none => s.start.fetch s.toCome

/-- The number of rows at hand. -/
def atHand (s : FileSource) : Nat :=
  match s.batch with
  | none => 0
  | some b => b.size - s.position

/-- The number of rows to go. -/
def remaining (s : FileSource) : Nat := s.atHand + Batch.totalSize s.toCome

theorem atHand_of_current? {s : FileSource} (h : s.current? = none) : s.atHand = 0 := by
  rw [current?] at h
  rw [atHand]
  cases hb : s.batch with
  | none => rfl
  | some b =>
    rw [hb] at h
    dsimp only at h ⊢
    split at h
    · split at h <;> cases h
    · omega

theorem remaining_current? {s t : FileSource} {cells : Cells} (h : s.current? = some (.row cells, t)) :
    s.atHand = t.atHand + 1 ∧ t.toCome = s.toCome := by
  rw [current?] at h
  cases hb : s.batch with
  | none =>
    rw [hb] at h
    cases h
  | some b =>
    rw [hb] at h
    dsimp only at h
    split at h
    next hplace =>
      split at h <;> cases h
      refine ⟨?_, rfl⟩
      simp only [atHand, hb]
      omega
    · cases h

theorem remaining_fetch {s t : FileSource} {batches : List Batch} {cells : Cells}
    (h : s.fetch batches = (.row cells, t)) : Batch.totalSize batches = t.remaining + 1 := by
  induction batches generalizing s with
  | nil => cases h
  | cons b rest ih =>
    rw [fetch] at h
    rw [Batch.totalSize]
    split at h
    next answer hcurrent =>
      subst h
      obtain ⟨hhand, hcome⟩ := remaining_current? hcurrent
      have hsize : b.size = t.atHand + 1 := hhand
      have hrest : t.toCome = rest := hcome
      rw [remaining, hrest, hsize]
      omega
    next hcurrent =>
      have hnone : b.size = 0 := atHand_of_current? hcurrent
      rw [hnone, Nat.zero_add, ih h]

theorem remaining_next {s t : FileSource} {cells : Cells} (h : s.next = (.row cells, t)) :
    s.remaining = t.remaining + 1 := by
  rw [next] at h
  split at h
  next answer hcurrent =>
    subst h
    obtain ⟨hhand, hcome⟩ := remaining_current? hcurrent
    rw [remaining, remaining, hcome, hhand]
    omega
  next hcurrent => rw [remaining, atHand_of_current? hcurrent, Nat.zero_add, remaining_fetch h]

end FileSource

end ColumnScan
