import ColumnScan.Proofs.Filter.Locality
import ColumnScan.Proofs.Filter.Single
import ColumnScan.Proofs.Predicate.Kleene

/-!
# Operators and their expansions

What an operator says is what a longer predicate says: to be one of some literals is to equal one of
them, to be at most a literal is to be less or equal, and to lie between two literals is to be at least
the one and at most the other, as far as these are numbers. So it is for every row, be the cell null,
not a number or not there. Main statements: `Comparison.evaluate_oneOf`, `Comparison.evaluate_atMost`,
`Comparison.evaluate_between` and `Call.verdict_expansions`.
-/

namespace ColumnScan

/-! ## Verdicts on a cell -/

namespace Comparison

variable {cell : Option Stored}

/-- A cell is judged as a null or by its value. -/
theorem evaluate_cases (cell : Option Stored) : (∀ c : Comparison, c.evaluate cell = c.judgeNull) ∨
    ∃ value, ∀ c : Comparison, c.evaluate cell = c.judge value := by
  rcases cell with _ | value
  · exact .inl fun _ => rfl
  · cases value with
    | null => exact .inl fun _ => rfl
    | _ => exact .inr ⟨_, fun _ => rfl⟩

theorem judge_oneOf_cons (value literal : Stored) (rest : List Stored) :
    (oneOf (literal :: rest)).judge value =
      ((equals literal).judge value).disj ((oneOf rest).judge value) := by
  simp only [judge, List.any_cons]
  -- Whatever the first literal says, the others find an equal one, or one that is not comparable.
  obtain hfirst | ⟨o, hfirst⟩ := Option.eq_none_or_eq_some (literal.compare? value)
  · simp only [hfirst]
    cases rest.any (fun l => l.compare? value == some .eq) <;>
      cases rest.any (fun l => l.compare? value == none) <;> rfl
  · simp only [hfirst]
    cases o <;> cases rest.any (fun l => l.compare? value == some .eq) <;>
      cases rest.any (fun l => l.compare? value == none) <;> rfl

theorem judge_oneOf_eq_any (value : Stored) (literals : List Stored) :
    (oneOf literals).judge value = Truth.any (literals.map fun l => (equals l).judge value) := by
  induction literals with
  | nil => rfl
  | cons literal rest ih =>
    rw [judge_oneOf_cons, ih]
    exact (Connective.or.joined_cons _ _).symm

/-- To be one of some literals is to equal one of them. -/
theorem evaluate_oneOf {literals : List Stored} (h : literals ≠ []) (cell : Option Stored) :
    (oneOf literals).evaluate cell = Truth.any (literals.map fun l => (equals l).evaluate cell) := by
  obtain hnull | ⟨value, hvalue⟩ := evaluate_cases cell
  · -- Nothing is known of a null, whichever literal it is compared with.
    simp only [hnull]
    induction literals with
    | nil => exact absurd rfl h
    | cons literal rest ih =>
      have hrest : Truth.any ((literal :: rest).map fun l => (equals l).judgeNull) =
          Truth.unknown.disj (Truth.any (rest.map fun l => (equals l).judgeNull)) :=
        Connective.or.joined_cons _ _
      rw [hrest]
      cases rest with
      | nil => rfl
      | cons other rest =>
        rw [← ih (List.cons_ne_nil other rest)]
        rfl
  · simp only [hvalue]
    exact judge_oneOf_eq_any value literals

/-- To be at most a literal is to be less or equal. -/
theorem evaluate_atMost (literal : Stored) (cell : Option Stored) :
    (below literal true).evaluate cell =
      ((below literal false).evaluate cell).disj ((equals literal).evaluate cell) := by
  obtain hnull | ⟨value, hvalue⟩ := evaluate_cases cell
  · simp only [hnull]
    rfl
  · simp only [hvalue, judge]
    rcases literal.compare? value with _ | (_ | _ | _) <;> rfl

/-- To lie between two literals that are comparable with the same values is to be at least the one and
at most the other. -/
theorem evaluate_between {lower upper : Stored}
    (h : ∀ value, (lower.compare? value).isSome = (upper.compare? value).isSome)
    (cell : Option Stored) : (between lower upper).evaluate cell =
      ((below lower false).evaluate cell).neg.conj ((below upper true).evaluate cell) := by
  obtain hnull | ⟨value, hvalue⟩ := evaluate_cases cell
  · simp only [hnull]
    rfl
  · have hboth := h value
    simp only [hvalue, judge, upper.compare?_swap value]
    cases hlow : lower.compare? value with
    | none =>
      rw [hlow] at hboth
      rw [Option.not_isSome_iff_eq_none.1 (Bool.eq_false_iff.1 hboth.symm)]
      rfl
    | some low =>
      rw [hlow] at hboth
      obtain ⟨high, hhigh⟩ := Option.isSome_iff_exists.1 hboth.symm
      rw [hhigh]
      cases low <;> cases high <;> rfl

/-- Either one of less, equal and greater is so and the others are not, or nothing is known of any. -/
theorem evaluate_trichotomy (literal : Stored) (cell : Option Stored) :
    ((below literal false).evaluate cell, (equals literal).evaluate cell,
      ((below literal true).evaluate cell).neg) ∈
    [(.yes, .no, .no), (.no, .yes, .no), (.no, .no, .yes), (.unknown, .unknown, .unknown)] := by
  obtain hnull | ⟨value, hvalue⟩ := evaluate_cases cell
  · simp only [hnull, judgeNull]
    decide
  · simp only [hvalue, judge]
    rcases literal.compare? value with _ | (_ | _ | _) <;> decide

end Comparison

/-! ## Literals that are numbers -/

/-- Whether the literal is not a number. -/
def Literal.isNaN : Literal → Bool
  | .float x => x.isNaN
  | _ => false

theorem Literal.isSome_compare?_of_coerce? {kind : Kind} {literal : Literal} {value : Stored}
    (h : literal.coerce? kind = some value) (hnumber : literal.isNaN = false) :
    (value.compare? value).isSome := by
  unfold coerce? at h
  split at h
  case h_5 x =>
    cases h
    have hsingle : Ieee.singleFormat.isNaN x.toSingle.bits.toNat = false := Ieee.Double.isNaN_toSingle hnumber
    simp [Stored.compare?, Scalar.compare?, Ieee.Single.compare?, Ieee.Format.isSome_compareNumbers, hsingle]
  case h_6 x =>
    cases h
    have hdouble : Ieee.doubleFormat.isNaN x.bits.toNat = false := hnumber
    simp [Stored.compare?, Scalar.compare?, Ieee.Double.compare?, Ieee.Format.isSome_compareNumbers, hdouble]
  case h_10 =>
    obtain ⟨d, _, rfl⟩ := Option.map_eq_some_iff.1 h
    rfl
  all_goals cases h <;> rfl

/-- Literals that are numbers are comparable with the same values of a column. -/
theorem Literal.comparable_alike {kind : Kind} {a b : Literal} {s t : Stored}
    (hs : a.coerce? kind = some s) (ht : b.coerce? kind = some t) (ha : a.isNaN = false)
    (hb : b.isNaN = false) (value : Stored) :
    (s.compare? value).isSome = (t.compare? value).isSome := by
  have hkind : s.kindName = t.kindName :=
    (kindName_of_coerce? hs).trans (kindName_of_coerce? ht).symm
  rw [Bool.eq_iff_iff, Stored.isSome_compare?_iff, Stored.isSome_compare?_iff (a := t), hkind]
  simp only [isSome_compare?_of_coerce? hs ha, isSome_compare?_of_coerce? ht hb]

/-! ## Verdicts of filters -/

namespace Call

variable {schema : StructType} {column : String} {kind : Kind} {r : Row} {cell : Option Stored}

section

variable (h : schema.Compares column kind) (hcell : (r.stored? column).1 = .ok cell) {l : Literal}
  {s : Stored} (hs : l.coerce? kind = some s)
include h hcell hs

theorem verdict_equals :
    verdict schema r (.equals column l) = .ok ((Comparison.equals s).evaluate cell) :=
  verdict_single h hcell .equals rfl (.cons hs .nil) rfl false

theorem verdict_lessThan :
    verdict schema r (.lessThan column l) = .ok ((Comparison.below s false).evaluate cell) :=
  verdict_single h hcell .lessThan rfl (.cons hs .nil) rfl false

theorem verdict_lessThanEquals :
    verdict schema r (.lessThanEquals column l) = .ok ((Comparison.below s true).evaluate cell) :=
  verdict_single h hcell .lessThanEquals rfl (.cons hs .nil) rfl false

/-- To be greater is not to be at most the literal. -/
theorem verdict_greaterThan :
    verdict schema r (.greaterThan column l) = .ok ((Comparison.below s true).evaluate cell).neg :=
  verdict_single h hcell .lessThanEquals rfl (.cons hs .nil) rfl true

/-- To be at least the literal is not to be less. -/
theorem verdict_greaterThanEquals :
    verdict schema r (.greaterThanEquals column l) =
      .ok ((Comparison.below s false).evaluate cell).neg :=
  verdict_single h hcell .lessThan rfl (.cons hs .nil) rfl true

end

theorem verdict_between (h : schema.Compares column kind) (hcell : (r.stored? column).1 = .ok cell)
    {lower upper : Literal} {s t : Stored} (hs : lower.coerce? kind = some s)
    (ht : upper.coerce? kind = some t) :
    verdict schema r (.between column lower upper) = .ok ((Comparison.between s t).evaluate cell) :=
  verdict_single h hcell .between rfl (.cons hs (.cons ht .nil)) rfl false

/-- To be in a list is to equal one of its literals. -/
theorem verdict_inList (h : schema.Compares column kind) (hcell : (r.stored? column).1 = .ok cell)
    {literals : List Literal} (hne : literals ≠ []) {values : List Stored}
    (hvalues : List.Forall₂ (fun l s => Literal.coerce? kind l = some s) literals values) :
    verdict schema r (.inList column literals) =
      .ok (Truth.any (values.map fun s => (Comparison.equals s).evaluate cell)) := by
  cases hvalues with
  | nil => exact absurd rfl hne
  | @cons l s ls ss hs hrest =>
    rw [← Comparison.evaluate_oneOf (List.cons_ne_nil s ss)]
    have harity : Operator.inList.arity.admits (l :: ls).length = true := by
      simp [Operator.arity, Arity.admits]
    exact verdict_single h hcell .inList harity (.cons hs hrest) rfl false

/-- The operators of a filter give a verdict and agree with their expansions, whatever is stored in the
column of the row, and also if the row has no such column. -/
theorem verdict_expansions (h : schema.Compares column kind) (hr : r.Reads column) :
    (∀ literals : List Literal, literals ≠ [] → (∀ l ∈ literals, (l.coerce? kind).isSome) →
      ∃ vs, List.Forall₂ (fun l v => verdict schema r (.equals column l) = .ok v) literals vs ∧
        verdict schema r (.inList column literals) = .ok (Truth.any vs)) ∧
    (∀ l : Literal, (l.coerce? kind).isSome → ∃ less equal,
      verdict schema r (.lessThan column l) = .ok less ∧
        verdict schema r (.equals column l) = .ok equal ∧
          verdict schema r (.lessThanEquals column l) = .ok (less.disj equal)) ∧
    (∀ lower upper : Literal, (lower.coerce? kind).isSome → (upper.coerce? kind).isSome →
      lower.isNaN = false → upper.isNaN = false → ∃ atLeast atMost,
        verdict schema r (.greaterThanEquals column lower) = .ok atLeast ∧
          verdict schema r (.lessThanEquals column upper) = .ok atMost ∧
            verdict schema r (.between column lower upper) = .ok (atLeast.conj atMost)) ∧
    ∀ l : Literal, (l.coerce? kind).isSome → ∃ less equal greater,
      verdict schema r (.lessThan column l) = .ok less ∧
        verdict schema r (.equals column l) = .ok equal ∧
          verdict schema r (.greaterThan column l) = .ok greater ∧
      (less, equal, greater) ∈
        [(.yes, .no, .no), (.no, .yes, .no), (.no, .no, .yes), (.unknown, .unknown, .unknown)] := by
  obtain ⟨cell, hcell⟩ := hr.exists_stored
  refine ⟨fun literals hne hliterals => ?_, fun l hl => ?_,
    fun lower upper hlower hupper hlow hhigh => ?_, fun l hl => ?_⟩
  · obtain ⟨values, hvalues⟩ := exists_forall₂ fun l hl => Option.isSome_iff_exists.1 (hliterals l hl)
    refine ⟨_, ?_, verdict_inList h hcell hne hvalues⟩
    rw [List.forall₂_map_right_iff]
    exact hvalues.imp fun l s hs => verdict_equals h hcell hs
  · obtain ⟨s, hs⟩ := Option.isSome_iff_exists.1 hl
    refine ⟨_, _, verdict_lessThan h hcell hs, verdict_equals h hcell hs, ?_⟩
    rw [verdict_lessThanEquals h hcell hs, Comparison.evaluate_atMost]
  · obtain ⟨s, hs⟩ := Option.isSome_iff_exists.1 hlower
    obtain ⟨t, ht⟩ := Option.isSome_iff_exists.1 hupper
    refine ⟨_, _, verdict_greaterThanEquals h hcell hs, verdict_lessThanEquals h hcell ht, ?_⟩
    rw [verdict_between h hcell hs ht,
      Comparison.evaluate_between (Literal.comparable_alike hs ht hlow hhigh)]
  · obtain ⟨s, hs⟩ := Option.isSome_iff_exists.1 hl
    exact ⟨_, _, _, verdict_lessThan h hcell hs, verdict_equals h hcell hs,
      verdict_greaterThan h hcell hs, Comparison.evaluate_trichotomy s cell⟩

/-- Weights as short floating-point numbers. -/
def weights : StructType := ⟨[⟨"Weight", .primitive .float⟩], by decide +kernel⟩

/-- A weight of one and a half. -/
def ofOneAndHalf : Row := (Row.ofSchema weights .stock).withCells ⟨[.scalar (.float ⟨0x3fc00000⟩)]⟩

/-- Two. -/
def two : Literal := .float ⟨0x4000000000000000⟩

/-- No number. -/
def noNumber : Literal := .float ⟨0x7ff8000000000000⟩

theorem verdict_expansions_weights :
    weights.Compares "weight" .float ∧ ofOneAndHalf.Reads "weight" ∧
    verdict weights ofOneAndHalf (.inList "weight" [noNumber, two]) = .ok .unknown ∧
    verdict weights ofOneAndHalf (.lessThanEquals "weight" two) = .ok .yes ∧
    verdict weights ofOneAndHalf (.between "weight" two two) = .ok .no := by
  have hcompares : weights.Compares "weight" .float := by
    refine ⟨by decide +kernel, ⟨0, ⟨"Weight", .primitive .float⟩, by decide +kernel, rfl⟩, rfl⟩
  have hreads : ofOneAndHalf.Reads "weight" := Row.Sound.reads ⟨rfl, rfl⟩ "weight"
  have hcell : (ofOneAndHalf.stored? "weight").1 = .ok (some (.scalar (.float ⟨0x3fc00000⟩))) := rfl
  have hunknown : verdict weights ofOneAndHalf (.equals "weight" noNumber) = .ok .unknown :=
    (verdict_equals hcompares hcell (l := noNumber) rfl).trans rfl
  have hdiffers : verdict weights ofOneAndHalf (.equals "weight" two) = .ok .no :=
    (verdict_equals hcompares hcell (l := two) rfl).trans rfl
  have hless : verdict weights ofOneAndHalf (.lessThan "weight" two) = .ok .yes :=
    (verdict_lessThan hcompares hcell (l := two) rfl).trans rfl
  obtain ⟨hlist, hatMost, hbetween, _⟩ := verdict_expansions hcompares hreads
  refine ⟨hcompares, hreads, ?_, ?_, ?_⟩
  · obtain ⟨vs, hvs, hverdict⟩ := hlist [noNumber, two] (List.cons_ne_nil _ _) (by decide)
    obtain ⟨v, ws, hv, hws, rfl⟩ := List.forall₂_cons_left_iff.1 hvs
    obtain ⟨w, us, hw, hus, rfl⟩ := List.forall₂_cons_left_iff.1 hws
    obtain rfl := List.forall₂_nil_left_iff.1 hus
    cases hunknown.symm.trans hv
    cases hdiffers.symm.trans hw
    exact hverdict
  · obtain ⟨less, equal, hlt, heq, hverdict⟩ := hatMost two rfl
    cases hless.symm.trans hlt
    cases hdiffers.symm.trans heq
    exact hverdict
  · obtain ⟨atLeast, atMost, hlow, _, hverdict⟩ := hbetween two two rfl rfl rfl rfl
    have hnot : verdict weights ofOneAndHalf (.greaterThanEquals "weight" two) = .ok .no :=
      (verdict_greaterThanEquals hcompares hcell (l := two) rfl).trans rfl
    cases hnot.symm.trans hlow
    exact hverdict

end Call

end ColumnScan
