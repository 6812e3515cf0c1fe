import ColumnScan.Storage.RowSource

/-!
# Rows to come

What a source in memory has not handed out yet, each row as it will be handed out and with the identity
that the source will tell of it. Every row that is handed out is the first of these, whatever rows and
identities came before. Main statements: `RowSource.InMemory.next_of_nil` and
`RowSource.InMemory.next_of_cons`.
-/

namespace ColumnScan

/-- Whether the row column of an envelope holds a row or none. -/
def Envelope.HoldsRow (cells : Cells) : Prop :=
  match cells.get? rowOrdinal with
  | none | some .null | some (.struct _) => True
  | _ => False

/-- The row inside an envelope, all nulls if there is none. -/
def EnvelopeView.inside (v : EnvelopeView) (cells : Cells) : Cells :=
  match cells.get? Envelope.rowOrdinal with
  | some (.struct children) => .project (isWanted v.projection) v.schema.size children
  | _ => .nulls v.schema.size

theorem EnvelopeView.unwrap_of_holdsRow (v : EnvelopeView) {cells : Cells}
    (h : Envelope.HoldsRow cells) : v.unwrap cells = .row (v.inside cells) := by
  unfold Envelope.HoldsRow at h
  rw [unwrap, inside]
  split at h
  · next hnone => rw [hnone]
  · next hnull => rw [hnull]
  · next hstruct => rw [hstruct]
  · cases h

/-- The rows that are still to be handed out, with the identities they will have. -/
def MemorySource.ahead (s : MemorySource) : List (Cells × Option RecordId) :=
  s.rows.map fun x => (.project (isWanted s.projection) s.schema.size x.1.values, x.2)

namespace RowSource

/-- The rows that a source in memory is still to hand out, with the identities they will have. -/
def ahead : RowSource → List (Cells × Option RecordId)
  | .memory s => s.ahead
  | .file _ => []
  | .envelope view inner => inner.ahead.map fun x => (view.inside x.1, Envelope.idOf x.1)

/-- The source is in memory, or the envelopes are whose rows it hands out; all of them hold a row or
none. -/
def InMemory : RowSource → Prop
  | .memory _ => True
  | .file _ => False
  | .envelope _ inner => inner.InMemory ∧ ∀ x ∈ inner.ahead, Envelope.HoldsRow x.1

namespace InMemory

variable {s : RowSource}

/-- Without rows to come the source is exhausted and stays so. -/
theorem next_of_nil (h : s.InMemory) (hahead : s.ahead = []) :
    ∃ t, s.next = (.exhausted, t) ∧ t.InMemory ∧ t.ahead = [] := by
  induction s with
  | memory s =>
    have hrows : s.rows = [] := List.map_eq_nil_iff.1 hahead
    refine ⟨.memory { s with current := none }, ?_, trivial, hahead⟩
    rw [next, MemorySource.next, hrows]
  | file s => exact h.elim
  | envelope view inner ih =>
    have hinner : inner.ahead = [] := List.map_eq_nil_iff.1 hahead
    obtain ⟨t, hnext, ht, hahead⟩ := ih h.1 hinner
    refine ⟨.envelope { view with current := none } t, ?_, ⟨ht, ?_⟩, ?_⟩
    · rw [next, hnext]
    · rw [hahead]
      exact List.forall_mem_nil _
    · rw [ahead, hahead]
      rfl

/-- The first row to come is handed out, and the source tells its identity. -/
theorem next_of_cons (h : s.InMemory) {x : Cells × Option RecordId}
    {rest : List (Cells × Option RecordId)} (hahead : s.ahead = x :: rest) :
    ∃ t, s.next = (.row x.1, t) ∧ t.InMemory ∧ t.ahead = rest ∧ t.recordId = x.2 := by
  induction s generalizing x rest with
  | memory s =>
    obtain ⟨⟨cells, id⟩, rows, hrows, rfl, rfl⟩ := List.map_eq_cons_iff.1 hahead
    refine ⟨.memory { s with rows := rows, current := id }, ?_, trivial, rfl, rfl⟩
    rw [next, MemorySource.next, hrows]
  | file s => exact h.elim
  | envelope view inner ih =>
    obtain ⟨y, rows, hinner, rfl, rfl⟩ := List.map_eq_cons_iff.1 hahead
    obtain ⟨hinside, hholds⟩ := h
    rw [hinner] at hholds
    obtain ⟨hfirst, hrest⟩ := List.forall_mem_cons.1 hholds
    obtain ⟨t, hnext, ht, hrows, _⟩ := ih hinside hinner
    refine ⟨.envelope { view with current := Envelope.idOf y.1 } t, ?_, ⟨ht, hrows ▸ hrest⟩, ?_, rfl⟩
    · rw [next, hnext]
      exact congrArg (·, _) (view.unwrap_of_holdsRow hfirst)
    · rw [ahead, hrows]
      rfl

end InMemory

end RowSource

end ColumnScan
