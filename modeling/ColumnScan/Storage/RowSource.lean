import ColumnScan.Storage.Envelope
import ColumnScan.Storage.File

/-!
# Row sources

Where rows come from: memory, a file, or the envelopes of another source. Whatever the source, it
has a schema, hands out one row after the other, and may be told beforehand which columns are
wanted. Main statement: `remaining_next`, a source that hands out a row has one row less to go.
-/

namespace ColumnScan

/-- How the rows inside envelopes are seen. -/
structure EnvelopeView where
  /-- The schema of the rows inside. -/
  schema : StructType
  projection : Option (List Nat) := none
  /-- The identity of the row handed out last. -/
  current : Option RecordId := none

/-- Where rows come from. -/
inductive RowSource where
  | memory (source : MemorySource)
  | file (source : FileSource)
  | envelope (view : EnvelopeView) (inner : RowSource)

namespace EnvelopeView

/-- The row inside an envelope. -/
def unwrap (v : EnvelopeView) (cells : Cells) : Fetched :=
  match cells.get? Envelope.rowOrdinal with
  | some (.struct children) => .row (.project (isWanted v.projection) v.schema.size children)
  | none | some .null => .row (.nulls v.schema.size)
  | some other =>
    .failed (.invalidValue Envelope.rowColumn v.schema.type other.kindName)
      (some (.nulls v.schema.size))

end EnvelopeView

namespace RowSource

/-- The schema of the rows. -/
def schema : RowSource → StructType
  | .memory s => s.schema
  | .file s => s.schema
  | .envelope view _ => view.schema

/-- Whether rows have identities. -/
def isTransactional : RowSource → Bool
  | .memory s => s.isTransactional
  | .file _ => false
  | .envelope .. => true

/-- The identity of the row handed out last. -/
def recordId : RowSource → Option RecordId
  | .memory s => s.current
  | .file _ => none
  | .envelope view _ => view.current

/-- The number of rows to go. -/
def remaining : RowSource → Nat
  | .memory s => s.rows.length
  | .file s => s.remaining
  | .envelope _ inner => inner.remaining

/-- The rows inside the envelopes of a source. -/
def ofEnvelopes (inner : RowSource) : Except EnvelopeFault RowSource := do
  return .envelope ⟨← Envelope.rowStruct inner.schema, none, none⟩ inner

/-- The source that reads some columns only; of an envelope the whole row is read. -/
def project (ordinals : List Nat) : RowSource → Except StorageError RowSource
  | .memory s => .ok (.memory (s.project ordinals))
  | .file s => (s.project ordinals).map .file
  | .envelope view inner => do
    let inner ← project Envelope.ordinals inner
    return .envelope { view with projection := some ordinals } inner

/-- The next row. -/
def next : RowSource → Fetched × RowSource
  | .memory s => (s.next.1, .memory s.next.2)
  | .file s => (s.next.1, .file s.next.2)
  | .envelope view inner =>
    match next inner with
    | (.row cells, inner) =>
      (view.unwrap cells, .envelope { view with current := Envelope.idOf cells } inner)
    | (.exhausted, inner) => (.exhausted, .envelope { view with current := none } inner)
    | (.failed e _, inner) => (.failed e none, .envelope view inner)

theorem remaining_next {s t : RowSource} {cells : Cells} (h : s.next = (.row cells, t)) :
    s.remaining = t.remaining + 1 := by
  induction s generalizing t cells with
  | memory s =>
    obtain ⟨schema, rows, projection, current, transactional⟩ := s
    cases rows <;> simp [next, MemorySource.next] at h
    obtain ⟨_, rfl⟩ := h
    rfl
  | file s =>
    obtain ⟨hanswer, rfl⟩ := Prod.mk.inj h
    exact FileSource.remaining_next (Prod.ext hanswer rfl)
  | envelope view inner ih =>
    simp only [next] at h
    split at h <;> simp at h
    next hi =>
      obtain ⟨_, rfl⟩ := h
      simpa [remaining] using ih hi

end RowSource

end ColumnScan
