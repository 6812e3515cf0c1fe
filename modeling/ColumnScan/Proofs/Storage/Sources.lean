import ColumnScan.Proofs.Columnar.Cutting
import ColumnScan.Proofs.Positions
import ColumnScan.Storage.RowSource

/-!
# What sources hand out

All that a reader sees of a source is which rows it hands out until there are no more. Memory hands out
its rows with the columns that were asked for, and so does a file, in whatever batches its rows are
fetched. Main statements: `handsOut_memory` and `handsOut_file`.
-/

namespace ColumnScan

/-- Asked for one row after the other, the source hands out these and then none. -/
inductive RowSource.HandsOut : RowSource → List Cells → Prop where
  | nil {s t : RowSource} (next : s.next = (.exhausted, t)) : HandsOut s []
  | cons {s t : RowSource} {cells : Cells} {rows : List Cells} (next : s.next = (.row cells, t))
    (rest : HandsOut t rows) : HandsOut s (cells :: rows)

namespace RowSource

theorem HandsOut.of_next_eq {s s' : RowSource} {rows : List Cells} (h : s.next = s'.next)
    (h' : s'.HandsOut rows) : s.HandsOut rows := by
  cases h' with
  | nil next => exact .nil (h.trans next)
  | cons next rest => exact .cons (h.trans next) rest

theorem isTransactional_next (s : RowSource) : s.next.2.isTransactional = s.isTransactional := by
  cases s with
  | memory s =>
    rw [next, MemorySource.next]
    split <;> rfl
  | file s => rfl
  | envelope view inner =>
    rw [next]
    split <;> rfl

/-- Memory hands out its rows with the columns that were asked for. -/
theorem handsOut_memory (s : MemorySource) :
    (RowSource.memory s).HandsOut
      (s.rows.map fun x => .project (isWanted s.projection) s.schema.size x.1.values) := by
  obtain ⟨schema, rows, projection, current, transactional⟩ := s
  induction rows generalizing current with
  | nil => exact .nil rfl
  | cons x rest ih =>
    obtain ⟨cells, id⟩ := x
    exact .cons rfl (ih id)

/-- Memory that is asked for all columns hands out rows of the schema as they are. -/
theorem handsOut_ofRows {schema : StructType} {rows : List Cells}
    (hsize : ∀ c ∈ rows, c.size = schema.size) : (memory (.ofRows schema rows)).HandsOut rows := by
  have hwhole : ∀ c ∈ rows, Cells.project (isWanted none) schema.size c.values = c := fun c hc => by
    refine Cells.ext_getD ((Cells.size_project ..).trans (hsize c hc).symm) fun i hi => ?_
    rw [Cells.size_project] at hi
    exact (Cells.getD_project _ _ hi).trans (if_pos rfl)
  have hsame : (rows.map (·, none)).map (fun x : Cells × Option RecordId =>
      Cells.project (isWanted none) schema.size x.1.values) = rows := by
    rw [List.map_map]
    exact (List.map_congr_left hwhole).trans (List.map_id rows)
  have hmemory : (memory (.ofRows schema rows)).HandsOut ((rows.map (·, none)).map fun x =>
      .project (isWanted none) schema.size x.1.values) := handsOut_memory (.ofRows schema rows)
  rw [hsame] at hmemory
  exact hmemory

end RowSource

/-! ## Files -/

namespace FileSource

open Columnar Batch

variable {schema : StructType} {ordinals : List Nat} {s : FileSource} {hand : List Cells}

/-- These rows are left in the batch that was fetched last. -/
structure AtHand (schema : StructType) (ordinals : List Nat) (s : FileSource) (hand : List Cells) :
    Prop where
  sameSchema : s.schema = schema
  sameOrdinals : s.ordinals = ordinals
  rows : (s.batch = none ∧ hand = []) ∨
    ∃ b rows, s.batch = some b ∧ Shows schema ordinals b rows ∧ hand = rows.drop s.position

theorem AtHand.current?_nil (h : s.AtHand schema ordinals []) : s.current? = none := by
  obtain ⟨hbatch, _⟩ | ⟨b, rows, hbatch, hshows, hdrop⟩ := h.rows
  · rw [current?, hbatch]
  · rw [current?, hbatch]
    have hpassed : rows.length ≤ s.position := List.drop_eq_nil_iff.1 hdrop.symm
    exact if_neg (Nat.not_lt_of_le (hshows.size ▸ hpassed))

/-- The first row at hand is read and passed. -/
theorem AtHand.current?_cons {cells : Cells} {rest : List Cells}
    (h : s.AtHand schema ordinals (cells :: rest)) :
    s.current? = some (.row cells, { s with position := s.position + 1 }) ∧
      AtHand schema ordinals { s with position := s.position + 1 } rest := by
  obtain ⟨_, hnone⟩ | ⟨b, rows, hbatch, hshows, hdrop⟩ := h.rows
  · cases hnone
  · have hfirst : rows[s.position]? = some cells := by
      rw [← Nat.add_zero s.position, ← List.getElem?_drop, ← hdrop]
      rfl
    have hrest : rest = rows.drop (s.position + 1) := by
      rw [← List.drop_drop, ← hdrop]
      rfl
    obtain ⟨hplace, _⟩ := List.getElem?_eq_some_iff.1 hfirst
    refine ⟨?_, h.sameSchema, h.sameOrdinals, .inr ⟨b, rows, hbatch, hshows, hrest⟩⟩
    rw [current?, hbatch, h.sameSchema, h.sameOrdinals]
    simp only [if_pos (hshows.size ▸ hplace), hshows.reads _ _ hfirst]

/-- With no row at hand the next batch is fetched. -/
theorem next_of_fetch (h : s.current? = none) {b : Batch} {rest : List Batch}
    (hreader : s.reader = some (b :: rest)) :
    s.next = next { s with reader := some rest, batch := some b, position := 0 } := by
  have hstart : s.start = s := by
    rw [start, hreader]
    rfl
  have hcome : s.toCome = b :: rest := by
    rw [toCome, hreader]
    rfl
  rw [next, h]
  dsimp only
  rw [hstart, hcome, fetch, next]
  rfl

theorem next_of_end (h : s.current? = none) (hreader : s.reader = some []) :
    s.next = (.exhausted, { s with reader := some [], batch := none }) := by
  have hstart : s.start = s := by
    rw [start, hreader]
    rfl
  have hcome : s.toCome = [] := by
    rw [toCome, hreader]
    rfl
  rw [next, h]
  dsimp only
  rw [hstart, hcome, fetch]

/-- A file from which nothing was read yet settles what is asked of it first. -/
theorem next_start (hreader : s.reader = none) (hbatch : s.batch = none) : s.next = s.start.next := by
  have hstart : s.start = { s with ordinals := s.wanted, reader := some s.toCome } := by
    rw [start, hreader]
    rfl
  have hnone : s.current? = none := by rw [current?, hbatch]
  have hnone' : s.start.current? = none := by
    rw [hstart, current?, hbatch]
  rw [next, hnone, next, hnone', hstart]
  rfl

theorem handsOut_of_atHand {rows : List Cells} (h : s.AtHand schema ordinals hand)
    (later : ∀ s', s'.reader = s.reader → s'.AtHand schema ordinals [] →
      (RowSource.file s').HandsOut rows) : (RowSource.file s).HandsOut (hand ++ rows) := by
  induction hand generalizing s with
  | nil => exact later s rfl h
  | cons cells rest ih =>
    obtain ⟨hcurrent, hrest⟩ := h.current?_cons
    have hnext : (RowSource.file s).next =
        (.row cells, .file { s with position := s.position + 1 }) := by
      rw [RowSource.next, next, hcurrent]
    exact .cons hnext (ih hrest later)

/-- The rows at hand, then those of the batches that are not fetched yet. -/
theorem handsOut_of_shows {batches : List Batch} {later : List (List Cells)}
    (hlater : List.Forall₂ (Shows schema ordinals) batches later)
    (h : s.AtHand schema ordinals hand) (hreader : s.reader = some batches) :
    (RowSource.file s).HandsOut (hand ++ later.flatten) := by
  -- Each batch is walked to its end before the next one is fetched.
  induction hlater generalizing s hand with
  | nil =>
    refine handsOut_of_atHand h fun s' hreader' h' => ?_
    have hnext : (RowSource.file s').next =
        (.exhausted, .file { s' with reader := some [], batch := none }) := by
      rw [RowSource.next, next_of_end h'.current?_nil (hreader'.trans hreader)]
    exact .nil hnext
  | @cons b rows batches later hshows _ ih =>
    refine handsOut_of_atHand h fun s' hreader' h' => ?_
    have hnext : (RowSource.file s').next =
        (RowSource.file { s' with reader := some batches, batch := some b, position := 0 }).next := by
      rw [RowSource.next, RowSource.next, next_of_fetch h'.current?_nil (hreader'.trans hreader)]
    have hfetched : AtHand schema ordinals
        { s' with reader := some batches, batch := some b, position := 0 } rows :=
      ⟨h'.sameSchema, h'.sameOrdinals, .inr ⟨b, rows, rfl, hshows, rfl⟩⟩
    exact .of_next_eq hnext (ih hfetched rfl)

/-- The positions that are asked for are those of the schema that are wanted. -/
theorem wanted_eq (s : FileSource) :
    s.wanted = (List.range s.schema.size).filter (isWanted s.projection) := by
  rw [wanted]
  cases hprojection : s.projection with
  | none => exact (List.filter_eq_self.2 fun _ _ => rfl).symm
  | some ordinals =>
    have hbounded : ∀ i ∈ ordinals.filter fun i => decide (i < s.schema.size), i < s.schema.size :=
      fun i hi => of_decide_eq_true (List.mem_filter.1 hi).2
    refine (ascending_eq_filter hbounded).trans (List.filter_congr fun i hi => ?_)
    have hlt : i < s.schema.size := List.mem_range.1 hi
    simp [isWanted, List.mem_filter, hlt]

/-- A file hands out its rows with the columns that were asked for, however many are fetched together. -/
theorem handsOut_file {rows : List Cells} (hreader : s.reader = none) (hbatch : s.batch = none)
    (hsize : 0 < s.batchSize) (hcontent : s.content.Lays s.schema rows)
    (returns : ∀ r ∈ rows, ∀ k field, s.schema.field? k = some field →
      Returns field.type (r.getD k) (r.getD k)) :
    (RowSource.file s).HandsOut
      (rows.map fun r => .project (isWanted s.projection) s.schema.size r.values) := by
  have hstart : s.start = { s with ordinals := s.wanted, reader := some s.toCome } := by
    rw [start, hreader]
    rfl
  have hcome : s.toCome = (s.content.select s.wanted).cut s.batchSize := by
    rw [toCome, hreader]
    rfl
  rw [wanted_eq] at hstart hcome
  have hshows := hcontent.shows_cut (isWanted s.projection) s.batchSize returns
  have hhand : s.start.AtHand s.schema
      ((List.range s.schema.size).filter (isWanted s.projection)) [] := by
    rw [hstart]
    exact ⟨rfl, rfl, .inl ⟨hbatch, rfl⟩⟩
  have hrows := handsOut_of_shows hshows hhand (by rw [hstart, hcome])
  rw [List.nil_append, flatten_pieces _ hsize] at hrows
  refine .of_next_eq ?_ hrows
  rw [RowSource.next, RowSource.next, next_start hreader hbatch]

end FileSource

end ColumnScan
