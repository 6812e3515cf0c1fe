import ColumnScan.Proofs.Filter.Locality
import ColumnScan.Proofs.Scan.Filtering
import ColumnScan.Proofs.Scan.Run
import ColumnScan.Proofs.Storage.Sources
import ColumnScan.Proofs.Storage.Upcoming

/-!
# What a reader has read

Call by call a reader of rows in memory hands on the rows that its filter accepts, in the order of the
source and each with the identity that the source tells of that very row, and counts the rows it takes
from the source: those handed on and those left out. It says that there are no more once the source is
exhausted, and from then on a call changes nothing. So it is whatever the rows held that the caller
provides. Main statements: `RecordReader.advance_next`, what one call does;
`RecordReader.hands_on_accepted`, what all calls do.
-/

namespace ColumnScan

/-! ## Filters that decide -/

/-- A row of this schema with these converters, whatever it holds. -/
structure Row.IsOf (schema : StructType) (factory : ConverterFactory) (row : Row) : Prop where
  schema : row.schema = schema
  factory : row.factory = factory

/-- The filter never fails, and its answer on a row is told by the cells. -/
structure RowFilter.Decides (f : RowFilter) (schema : StructType) (factory : ConverterFactory)
    (accepts : Cells → Bool) : Prop where
  answer : ∀ row : Row, row.IsOf schema factory → (f.accept row).1 = .ok (accepts row.cells)
  stays : ∀ row : Row, row.IsOf schema factory → (f.accept row).2.IsOf schema factory

/-- The filter of a search argument decides, on rows of a valid schema. -/
theorem ArgumentFilter.decides_toFilter {argument : SearchArgument} {schema actual : StructType}
    {f : ArgumentFilter} (hf : make argument schema = .ok f) (valid : actual.validate = .ok ()) :
    f.toFilter.Decides actual .stock fun cells =>
      (argument.evaluate (argument.leaves.map (ScanPlan.leafVerdict schema actual cells))).isYes where
  answer row hrow := by
    obtain ⟨row', hevaluate, _⟩ := evaluate_spec hf ⟨hrow.schema ▸ valid, hrow.factory⟩
    simp only [toFilter, hevaluate, hrow.schema]
  stays row hrow := by
    have hlike := f.readsOnly_toFilter.like row
    exact ⟨hlike.schema.trans hrow.schema, hlike.factory.trans hrow.factory⟩

namespace RecordReader

/-! ## One call -/

/-- The reader is at another point of the same scan. -/
structure Continues (r r' : RecordReader) : Prop where
  schema : r'.schema = r.schema
  factory : r'.factory = r.factory
  filter : r'.filter = r.filter
  attachIds : r'.attachIds = r.attachIds
  isTransactional : r'.source.isTransactional = r.source.isTransactional
  inMemory : r'.source.InMemory

/-- Everything that a call may do with the rows to come. -/
inductive Advance (accepts : Cells → Bool) (r : RecordReader) (rows : List (Cells × Option RecordId)) :
    Except Error Bool × RecordReader × Row → Prop where
  /-- Some rows are left out, and the first accepted one is handed on. -/
  | handedOn (passed rest : List (Cells × Option RecordId)) (x : Cells × Option RecordId)
    (asked : Row) {r' : RecordReader} {row : Row} (split : rows = passed ++ x :: rest)
    (rejected : ∀ y ∈ passed, accepts y.1 = false) (accepted : accepts x.1 = true)
    (continues : r.Continues r') (ahead : r'.source.ahead = rest) (isDone : r'.isDone = false)
    (read : r'.read = r.read + 1) (skipped : r'.skipped = r.skipped + passed.length)
    (made : asked.IsOf r.schema r.factory) (given : asked.cells = x.1)
    (cells : row.cells = (r.filter.accept asked).2.cells)
    (id : row.id = if r.attachIds && r.source.isTransactional then x.2 else none) :
    Advance accepts r rows (.ok true, r', row)
  /-- All rows are left out. -/
  | exhausted {r' : RecordReader} {row : Row} (rejected : ∀ y ∈ rows, accepts y.1 = false)
    (continues : r.Continues r') (ahead : r'.source.ahead = []) (isDone : r'.isDone = true)
    (read : r'.read = r.read) (skipped : r'.skipped = r.skipped + rows.length) :
    Advance accepts r rows (.ok false, r', row)

variable {r r' : RecordReader} {accepts : Cells → Bool} {rows : List (Cells × Option RecordId)}

/-- A row that is left out comes before what the rest of the call does. -/
theorem Advance.skip {x : Cells × Option RecordId} {source : RowSource}
    {result : Except Error Bool × RecordReader × Row} (hx : accepts x.1 = false)
    (hsource : source.isTransactional = r.source.isTransactional)
    (h : Advance accepts { r with source := source, skipped := r.skipped + 1 } rows result) :
    Advance accepts r (x :: rows) result := by
  cases h with
  | handedOn passed rest y asked split rejected accepted continues ahead isDone read skipped made
      given cells id =>
    refine .handedOn (x :: passed) rest y asked ?_ (List.forall_mem_cons.2 ⟨hx, rejected⟩) accepted
      { continues with isTransactional := continues.isTransactional.trans hsource } ahead isDone read
      ?_ made given cells ?_
    · rw [split]
      rfl
    · rw [skipped, List.length_cons]
      show r.skipped + 1 + _ = _
      omega
    · rw [id]
      simp only [hsource]
  | exhausted rejected continues ahead isDone read skipped =>
    refine .exhausted (List.forall_mem_cons.2 ⟨hx, rejected⟩)
      { continues with isTransactional := continues.isTransactional.trans hsource } ahead isDone read ?_
    rw [skipped, List.length_cons]
    show r.skipped + 1 + _ = _
    omega

/-- A call leaves rows out until it hands one on or there are no more. -/
theorem advance_next (hdone : r.isDone = false) (hsource : r.source.InMemory)
    (hfilter : r.filter.Decides r.schema r.factory accepts) {row : Row}
    (hrow : row.IsOf r.schema r.factory) : Advance accepts r r.source.ahead (r.next row) := by
  -- A row that is left out calls for one more turn of the same call, with one row less to come.
  generalize hahead : r.source.ahead = rows
  induction rows generalizing r row with
  | nil =>
    obtain ⟨t, hnext, ht, hnone⟩ := hsource.next_of_nil hahead
    rw [next_of_exhausted hdone hnext]
    have htransactional := r.source.isTransactional_next
    rw [hnext] at htransactional
    exact .exhausted (List.forall_mem_nil _) ⟨rfl, rfl, rfl, rfl, htransactional, ht⟩ hnone rfl rfl rfl
  | cons x rest ih =>
    obtain ⟨t, hnext, ht, hrest, hid⟩ := hsource.next_of_cons hahead
    have htransactional : t.isTransactional = r.source.isTransactional := by
      have hkept := r.source.isTransactional_next
      rwa [hnext] at hkept
    have hfilled : (row.withCells x.1).IsOf r.schema r.factory := ⟨hrow.schema, hrow.factory⟩
    have haccept : r.filter.accept (row.withCells x.1) =
        (.ok (accepts x.1), (r.filter.accept (row.withCells x.1)).2) :=
      Prod.ext (hfilter.answer _ hfilled) rfl
    cases hx : accepts x.1 with
    | true =>
      rw [hx] at haccept
      rw [next_of_accept hdone hnext haccept]
      refine .handedOn [] rest x (row.withCells x.1) rfl (List.forall_mem_nil _) hx
        ⟨rfl, rfl, rfl, rfl, htransactional, ht⟩ hrest hdone rfl rfl hfilled rfl rfl ?_
      show rowId _ = _
      simp only [rowId, htransactional, hid]
    | false =>
      rw [hx] at haccept
      rw [next_of_reject hdone hnext haccept]
      have hstays := hfilter.stays _ hfilled
      rw [haccept] at hstays
      exact .skip hx htransactional
        (ih (r := { r with source := t, skipped := r.skipped + 1 }) hdone ht hfilter hstays hrest)

end RecordReader

/-! ## Many calls -/

/-- A call of a reader: the row that the caller provides, and what comes of it. -/
structure ReaderCall where
  given : Row
  answer : Except Error Bool
  reader : RecordReader
  row : Row

/-- Whether a row was handed on. -/
def ReaderCall.handsOn (c : ReaderCall) : Bool :=
  match c.answer with
  | .ok answer => answer
  | .error _ => false

namespace RecordReader

/-- Makes a call. -/
def call (r : RecordReader) (given : Row) : ReaderCall :=
  ⟨given, (r.next given).1, (r.next given).2.1, (r.next given).2.2⟩

/-- Makes one call after the other, each with a row of its own. -/
def callsWith (r : RecordReader) : List Row → List ReaderCall
  | [] => []
  | given :: rest => r.call given :: (r.call given).reader.callsWith rest

/-- The rows that are to be handed on, with their identities. -/
def accepted (r : RecordReader) (accepts : Cells → Bool) : List (Cells × Option RecordId) :=
  r.source.ahead.filter fun x => accepts x.1

/-- What holds of a reader `r'` once `r` was called `k` times. The rows taken from the source were handed
on or left out, as many as the counts say. -/
structure Reached (accepts : Cells → Bool) (r : RecordReader) (k : Nat) (r' : RecordReader) : Prop where
  continues : r.Continues r'
  taken : ∃ before, r.source.ahead = before ++ r'.source.ahead ∧
    before.length = r'.read + r'.skipped ∧ (before.filter fun x => accepts x.1).length = r'.read
  read : r'.read = min k (r.accepted accepts).length
  isDone : r'.isDone = decide ((r.accepted accepts).length < k)
  exhausted : r'.isDone = true → r'.source.ahead = []

/-- What the call after `k` others does: it answers yes as long as there is an accepted row, the next one,
which was in the row when the filter was asked and whose identity the row has. -/
structure Told (accepts : Cells → Bool) (r : RecordReader) (k : Nat) (c : ReaderCall) : Prop where
  answer : c.answer = .ok (decide (k < (r.accepted accepts).length))
  reached : Reached accepts r (k + 1) c.reader
  row : ∀ x, (r.accepted accepts)[k]? = some x →
    (∃ asked : Row, asked.IsOf r.schema r.factory ∧ asked.cells = x.1 ∧
      c.row.cells = (r.filter.accept asked).2.cells) ∧
    c.row.id = if r.attachIds && r.source.isTransactional then x.2 else none

variable {r r' : RecordReader} {accepts : Cells → Bool} {k : Nat} {given : Row}

theorem call_of_done (h : r.isDone = true) (given : Row) : r.call given = ⟨given, .ok false, r, given⟩ := by
  rw [call, next_of_done h]

theorem Continues.trans {r'' : RecordReader} (h : r.Continues r') (h' : r'.Continues r'') :
    r.Continues r'' :=
  ⟨h'.schema.trans h.schema, h'.factory.trans h.factory, h'.filter.trans h.filter,
    h'.attachIds.trans h.attachIds, h'.isTransactional.trans h.isTransactional, h'.inMemory⟩

/-- The rows that are accepted come in the order of the source. -/
theorem accepted_of_split (accepts : Cells → Bool) {before rest : List (Cells × Option RecordId)}
    (h : r.source.ahead = before ++ rest) : r.accepted accepts =
      (before.filter fun x => accepts x.1) ++ rest.filter fun x => accepts x.1 := by
  rw [accepted, h, List.filter_append]

theorem filter_eq_nil_of_rejected {rows : List (Cells × Option RecordId)}
    (h : ∀ y ∈ rows, accepts y.1 = false) : (rows.filter fun x => accepts x.1) = [] :=
  List.filter_eq_nil_iff.2 fun y hy => Bool.eq_false_iff.1 (h y hy)

/-- The first accepted row after some others is the next one to be handed on. -/
theorem next_accepted {before passed rest : List (Cells × Option RecordId)}
    {x : Cells × Option RecordId} (h : r.source.ahead = before ++ (passed ++ x :: rest))
    (hcount : (before.filter fun y => accepts y.1).length = k)
    (rejected : ∀ y ∈ passed, accepts y.1 = false) (accepted : accepts x.1 = true) :
    (r.accepted accepts)[k]? = some x ∧
      (r.accepted accepts).length = k + 1 + (rest.filter fun y => accepts y.1).length ∧
        ((before ++ (passed ++ [x])).filter fun y => accepts y.1).length = k + 1 := by
  have hnone := filter_eq_nil_of_rejected rejected
  have hfirst : ∀ rest, ((x :: rest).filter fun y => accepts y.1) =
      x :: rest.filter fun y => accepts y.1 := fun rest => List.filter_cons_of_pos accepted
  have haccepted := accepted_of_split accepts h
  rw [List.filter_append, hnone, List.nil_append, hfirst] at haccepted
  refine ⟨?_, ?_, ?_⟩
  · rw [haccepted, List.getElem?_append_right (Nat.le_of_eq hcount), hcount, Nat.sub_self]
    rfl
  · rw [haccepted, List.length_append, List.length_cons, hcount]
    omega
  · rw [List.filter_append, List.filter_append, hnone, List.nil_append, hfirst, List.length_append,
      hcount]
    rfl

/-- As long as there were no more calls than accepted rows, a call does the next thing. -/
theorem Reached.told_of_advance (h : Reached accepts r k r')
    (hleft : k ≤ (r.accepted accepts).length) {result : Except Error Bool × RecordReader × Row}
    (hadvance : Advance accepts r' r'.source.ahead result) :
    Told accepts r k ⟨given, result.1, result.2.1, result.2.2⟩ := by
  obtain ⟨before, hsplit, hlength, hcount⟩ := h.taken
  have hread : r'.read = k := by
    rw [h.read]
    omega
  rw [hread] at hcount
  cases hadvance with
  | handedOn passed rest x asked split rejected accepted continues ahead isDone read skipped made
      asks cells id =>
    rw [split] at hsplit
    obtain ⟨hplace, hsize, htaken⟩ := next_accepted hsplit hcount rejected accepted
    refine ⟨?_, ⟨h.continues.trans continues, ?_, ?_, ?_, ?_⟩, fun y hy => ?_⟩
    · rw [decide_eq_true (by omega)]
    · -- The rows taken end with the one that is handed on.
      refine ⟨before ++ (passed ++ [x]), ?_, ?_, ?_⟩
      · rw [hsplit, ahead]
        simp only [List.append_assoc, List.singleton_append]
      · simp only [List.length_append, List.length_singleton, hlength, read, skipped]
        omega
      · rw [htaken, read, hread]
    · rw [read, hread]
      omega
    · rw [isDone, decide_eq_false (by omega)]
    · rw [isDone]
      exact nofun
    · obtain rfl := Option.some.inj (hplace.symm.trans hy)
      rw [h.continues.schema, h.continues.factory] at made
      rw [h.continues.filter] at cells
      rw [h.continues.attachIds, h.continues.isTransactional] at id
      exact ⟨⟨asked, made, asks, cells⟩, id⟩
  | exhausted rejected continues ahead isDone read skipped =>
    have hnone := filter_eq_nil_of_rejected rejected
    have hsize : (r.accepted accepts).length = k := by
      rw [accepted_of_split accepts hsplit, hnone, List.append_nil, hcount]
    refine ⟨?_, ⟨h.continues.trans continues, ?_, ?_, ?_, fun _ => ahead⟩, fun y hy => ?_⟩
    · rw [decide_eq_false (by omega)]
    · refine ⟨before ++ r'.source.ahead, ?_, ?_, ?_⟩
      · rw [ahead, List.append_nil, hsplit]
      · rw [List.length_append, hlength, read, skipped, Nat.add_assoc]
      · rw [List.filter_append, hnone, List.append_nil, hcount, read, hread]
    · rw [read, hread]
      omega
    · rw [isDone, decide_eq_true (by omega)]
    · obtain ⟨hk, _⟩ := List.getElem?_eq_some_iff.1 hy
      omega

/-- One more call. -/
theorem Reached.call (h : Reached accepts r k r')
    (hfilter : r.filter.Decides r.schema r.factory accepts) (hgiven : given.IsOf r.schema r.factory) :
    Told accepts r k (r'.call given) := by
  cases hdone : r'.isDone with
  | true =>
    -- There were no more rows before, and nothing changes.
    have hpast : (r.accepted accepts).length < k := of_decide_eq_true (h.isDone.symm.trans hdone)
    rw [call_of_done hdone]
    refine ⟨?_, ⟨h.continues, h.taken, ?_, ?_, h.exhausted⟩, fun x hx => ?_⟩
    · rw [decide_eq_false (Nat.not_lt_of_lt hpast)]
    · rw [h.read]
      omega
    · rw [hdone, decide_eq_true (Nat.lt_succ_of_lt hpast)]
    · obtain ⟨hk, _⟩ := List.getElem?_eq_some_iff.1 hx
      exact absurd hk (Nat.not_lt_of_lt hpast)
  | false =>
    have hleft : ¬(r.accepted accepts).length < k := of_decide_eq_false (h.isDone.symm.trans hdone)
    have hsame := h.continues
    rw [← hsame.schema, ← hsame.factory, ← hsame.filter] at hfilter
    rw [← hsame.schema, ← hsame.factory] at hgiven
    exact h.told_of_advance (Nat.le_of_not_lt hleft) (advance_next hdone hsame.inMemory hfilter hgiven)

/-- Call by call. -/
theorem Reached.callsWith {rows : List Row} (h : Reached accepts r k r')
    (hfilter : r.filter.Decides r.schema r.factory accepts)
    (hrows : ∀ row ∈ rows, row.IsOf r.schema r.factory) :
    ∀ n c, (r'.callsWith rows)[n]? = some c → Told accepts r (k + n) c := by
  induction rows generalizing k r' with
  | nil =>
    intro n c hc
    rw [RecordReader.callsWith, List.getElem?_nil] at hc
    cases hc
  | cons given rest ih =>
    obtain ⟨hgiven, hrest⟩ := List.forall_mem_cons.1 hrows
    have htold := h.call hfilter hgiven
    intro n c hc
    rw [RecordReader.callsWith] at hc
    cases n with
    | zero =>
      obtain rfl := Option.some.inj hc
      exact htold
    | succ n =>
      rw [List.getElem?_cons_succ] at hc
      have hnext := ih htold.reached hrest n c hc
      rwa [Nat.add_assoc, Nat.add_comm 1 n] at hnext

/-- Every reader counts the rows that it hands on. -/
theorem read_call (r : RecordReader) (given : Row) :
    (r.call given).reader.read = r.read + if (r.call given).handsOn then 1 else 0 := by
  rw [ReaderCall.handsOn, call]
  dsimp only
  fun_induction RecordReader.next r given with
  | case1 => rfl
  | case2 => rfl
  | case3 => rfl
  | case4 => rfl
  | case5 r row _ _ _ _ _ _ ih => exact ih
  | case6 => rfl

theorem read_callsWith (r : RecordReader) (rows : List Row) :
    ∀ n c, (r.callsWith rows)[n]? = some c →
      c.reader.read = r.read + ((r.callsWith rows).take (n + 1)).countP (·.handsOn) := by
  induction rows generalizing r with
  | nil =>
    intro n c hc
    rw [callsWith, List.getElem?_nil] at hc
    cases hc
  | cons given rest ih =>
    intro n c hc
    have hfirst := r.read_call given
    rw [callsWith] at hc
    rw [callsWith, List.take_succ_cons, List.countP_cons]
    cases n with
    | zero =>
      obtain rfl := Option.some.inj hc
      rw [hfirst, List.take_zero, List.countP_nil, Nat.zero_add]
    | succ n =>
      rw [List.getElem?_cons_succ] at hc
      rw [ih (r.call given).reader n c hc, hfirst]
      omega

theorem callsWith_of_done (h : r.isDone = true) (rows : List Row) :
    r.callsWith rows = rows.map fun given => ⟨given, .ok false, r, given⟩ := by
  induction rows with
  | nil => rfl
  | cons given rest ih => rw [callsWith, call_of_done h, ih, List.map_cons]

/-- Once a call has said that there are no more rows, so does every later one, and leaves the reader and
the row that it is given as they are. -/
theorem callsWith_after_end (r : RecordReader) (rows : List Row) :
    (r.callsWith rows).Pairwise fun c d =>
      c.answer = .ok false → d.answer = .ok false ∧ d.reader = c.reader ∧ d.row = d.given := by
  induction rows generalizing r with
  | nil => exact .nil
  | cons given rest ih =>
    refine .cons (fun d hd hend => ?_) (ih _)
    have hdone : (r.call given).reader.isDone = true := isDone_of_next hend
    rw [callsWith_of_done hdone] at hd
    obtain ⟨given', _, rfl⟩ := List.mem_map.1 hd
    exact ⟨rfl, rfl, rfl⟩

theorem map_given_callsWith (r : RecordReader) (rows : List Row) :
    (r.callsWith rows).map (·.given) = rows := by
  induction rows generalizing r with
  | nil => rfl
  | cons given rest ih => rw [callsWith, List.map_cons, ih, call]

/-- A reader from which nothing was read yet. -/
structure IsNew (r : RecordReader) : Prop where
  isDone : r.isDone = false
  read : r.read = 0
  skipped : r.skipped = 0

theorem IsNew.reached (h : r.IsNew) (hsource : r.source.InMemory) : Reached accepts r 0 r where
  continues := ⟨rfl, rfl, rfl, rfl, rfl, hsource⟩
  taken := ⟨[], rfl, by rw [h.read, h.skipped]; rfl, h.read.symm⟩
  read := by rw [h.read, Nat.zero_min]
  isDone := by rw [h.isDone, decide_eq_false (Nat.not_lt_zero _)]
  exhausted hdone := by
    rw [h.isDone] at hdone
    cases hdone

/-- A reader of rows in memory, called any number of times with rows of its schema that hold anything:
each call is answered, hands on the next accepted row with its identity as long as there is one, and
counts what it takes; the first one that hands nothing on finds the source exhausted, and later ones
change nothing. A filter that leaves the cells alone leaves exactly those of the source in the row. -/
theorem hands_on_accepted (h : r.IsNew) (hsource : r.source.InMemory)
    (hfilter : r.filter.Decides r.schema r.factory accepts) {rows : List Row}
    (hrows : ∀ row ∈ rows, row.IsOf r.schema r.factory) :
    (r.callsWith rows).map (·.given) = rows ∧
    (∀ k c, (r.callsWith rows)[k]? = some c → Told accepts r k c ∧
      c.reader.read = ((r.callsWith rows).take (k + 1)).countP (·.handsOn)) ∧
    ((∀ row : Row, row.IsOf r.schema r.factory → (r.filter.accept row).2.cells = row.cells) →
      ∀ (k : Nat) (c : ReaderCall) (x : Cells × Option RecordId), (r.callsWith rows)[k]? = some c →
        (r.accepted accepts)[k]? = some x → c.row.cells = x.1) ∧
    (r.callsWith rows).Pairwise fun c d =>
      c.answer = .ok false → d.answer = .ok false ∧ d.reader = c.reader ∧ d.row = d.given := by
  have htold : ∀ k c, (r.callsWith rows)[k]? = some c → Told accepts r k c := fun k c hc => by
    have hreached := (h.reached hsource).callsWith hfilter hrows k c hc
    rwa [Nat.zero_add] at hreached
  refine ⟨map_given_callsWith r rows, fun k c hc => ⟨htold k c hc, ?_⟩, fun hkeeps k c x hc hx => ?_,
    callsWith_after_end r rows⟩
  · rw [read_callsWith r rows k c hc, h.read, Nat.zero_add]
  · obtain ⟨⟨asked, hasked, hcells, hrow⟩, _⟩ := (htold k c hc).row x hx
    rw [hrow, hkeeps asked hasked, hcells]

/-- Boxes with their weights. -/
def boxes : StructType := ⟨[⟨"Weight", .primitive .int⟩], by decide +kernel⟩

/-- The weight is less than five. -/
def isLight : SearchArgument where
  leaves := [.make .lessThan "weight" [.long 5]]
  expression := .leaf 0
  inTable := by decide

/-- The envelope of a row, of which it is the one with this number. -/
def boxEnvelope (number : Int64) (row : Stored) : Cells :=
  ⟨[.scalar (.int 0), .scalar (.long 1), .scalar (.int 2), .scalar (.long number), .scalar (.long 1), row]⟩

/-- A heavy box, a light one, an envelope without a row, and another light box. -/
def boxSource : RowSource :=
  .envelope ⟨boxes, none, none⟩ (.memory (.ofRows (Envelope.envelope boxes)
    [boxEnvelope 0 (.struct [.scalar (.int 7)]), boxEnvelope 1 (.struct [.scalar (.int 3)]),
      boxEnvelope 2 .null, boxEnvelope 3 (.struct [.scalar (.int 4)])]))

/-- A row with the values and the identity of another scan. -/
def usedRow : Row := ((Row.ofSchema boxes .stock).withCells ⟨[.scalar (.int 9)]⟩).withId (some ⟨8, 8, 8⟩)

/-- The second call passes over two envelopes, and the row has nothing of what it held before. -/
theorem hands_on_accepted_boxes : ∃ f r c, ArgumentFilter.make isLight boxes = .ok f ∧
    r = { ofSource boxSource with filter := f.toFilter } ∧ r.IsNew ∧ r.source.InMemory ∧
    (r.callsWith [usedRow, usedRow, usedRow])[1]? = some c ∧ c.answer = .ok true ∧
    c.row.cells = ⟨[.scalar (.int 4)]⟩ ∧ c.row.id = some ⟨1, 2, 3⟩ ∧ c.reader.read = 2 := by
  obtain ⟨f, hmake⟩ : ∃ f, ArgumentFilter.make isLight boxes = .ok f := ⟨_, rfl⟩
  have hsource : boxSource.InMemory := ⟨trivial, List.forall_mem_cons.2 ⟨trivial, List.forall_mem_cons.2
    ⟨trivial, List.forall_mem_cons.2 ⟨trivial, List.forall_mem_singleton.2 trivial⟩⟩⟩⟩
  have hrows : ∀ row ∈ [usedRow, usedRow, usedRow], row.IsOf boxes .stock :=
    List.forall_mem_cons.2 ⟨⟨rfl, rfl⟩, List.forall_mem_cons.2 ⟨⟨rfl, rfl⟩,
      List.forall_mem_singleton.2 ⟨rfl, rfl⟩⟩⟩
  let r : RecordReader := { ofSource boxSource with filter := f.toFilter }
  let accepts : Cells → Bool := fun cells =>
    (isLight.evaluate (isLight.leaves.map (ScanPlan.leafVerdict boxes boxes cells))).isYes
  have hfilter : r.filter.Decides boxes .stock accepts := ArgumentFilter.decides_toFilter hmake rfl
  obtain ⟨-, htold, hcells, -⟩ := hands_on_accepted (r := r) ⟨rfl, rfl, rfl⟩ hsource hfilter hrows
  have haccepted : r.accepted accepts =
    [(⟨[.scalar (.int 3)]⟩, some ⟨1, 2, 1⟩), (⟨[.scalar (.int 4)]⟩, some ⟨1, 2, 3⟩)] := rfl
  obtain ⟨c, hc⟩ : ∃ c, (r.callsWith [usedRow, usedRow, usedRow])[1]? = some c := by
    rw [callsWith, List.getElem?_cons_succ, callsWith, List.getElem?_cons_zero]
    exact ⟨_, rfl⟩
  obtain ⟨hone, -⟩ := htold 1 c hc
  have hsecond : (r.accepted accepts)[1]? = some (⟨[.scalar (.int 4)]⟩, some ⟨1, 2, 3⟩) :=
    congrArg (·[1]?) haccepted
  have hkeeps : ∀ row : Row, row.IsOf r.schema r.factory →
      (r.filter.accept row).2.cells = row.cells := fun row _ => (f.readsOnly_toFilter.like row).cells
  refine ⟨f, r, c, hmake, rfl, ⟨rfl, rfl, rfl⟩, hsource, hc, ?_, hcells hkeeps 1 c _ hc hsecond, ?_, ?_⟩
  · rw [hone.answer, haccepted]
    rfl
  · exact (hone.row _ hsecond).2
  · rw [hone.reached.read, haccepted]
    rfl

end RecordReader

end ColumnScan
