import ColumnScan.Predicate.Builder
import ColumnScan.Proofs.Outcome
import ColumnScan.Proofs.Predicate.Kleene

/-!
# Meaning and form of clauses

A program of calls is read directly as a three-valued formula over leaves, and so is the clause that
is built from it. Groups that dissolve, groups of one clause and double negations change the form of
a clause and never its verdict. Main statements: `Call.reading_clause`, the clause of a call has the
verdict of the call; `Call.clause_normal`, it is in normal form.
-/

namespace ColumnScan

variable {verdict : Leaf → Truth} {k : Connective}

namespace Call

mutual

/-- The verdict of a call, read directly from the verdicts of the leaves. -/
def reading (verdict : Leaf → Truth) : Call → Truth
  | .leaf operator column literals => verdict (.make operator column literals)
  | .notLeaf operator column literals => (verdict (.make operator column literals)).neg
  | .group connective calls => connective.joined (readings verdict calls)
  | .notGroup calls => (Connective.and.joined (readings verdict calls)).neg

/-- The verdicts of calls. -/
def readings (verdict : Leaf → Truth) : List Call → List Truth
  | [] => []
  | call :: rest => reading verdict call :: readings verdict rest

end

end Call

namespace Clause

mutual

/-- The verdict of a clause, read directly from the verdicts of the leaves. -/
def reading (verdict : Leaf → Truth) : Clause → Truth
  | .leaf l => verdict l
  | .and clauses => Connective.and.joined (readings verdict clauses)
  | .or clauses => Connective.or.joined (readings verdict clauses)
  | .not clause => (reading verdict clause).neg

/-- The verdicts of clauses. -/
def readings (verdict : Leaf → Truth) : List Clause → List Truth
  | [] => []
  | clause :: rest => reading verdict clause :: readings verdict rest

end

theorem readings_append (xs ys : List Clause) :
    readings verdict (xs ++ ys) = readings verdict xs ++ readings verdict ys := by
  induction xs with
  | nil => rfl
  | cons x xs ih => rw [List.cons_append, readings, ih, readings, List.cons_append]

/-- The connective that joins a clause, if it is a group. -/
def connective? : Clause → Option Connective
  | .and _ => some .and
  | .or _ => some .or
  | _ => none

/-- Whether a clause is a negation. -/
def isNot : Clause → Bool
  | .not _ => true
  | _ => false

/-- The group of clauses as they are. -/
def group : Connective → List Clause → Clause
  | .and => .and
  | .or => .or

mutual

/-- A group has at least two clauses, none of them a group of its own kind, and a negation is not
negated. -/
def Normal : Clause → Prop
  | .leaf _ => True
  | .and clauses =>
    2 ≤ clauses.length ∧ (∀ c ∈ clauses, c.connective? ≠ some .and) ∧ NormalAll clauses
  | .or clauses =>
    2 ≤ clauses.length ∧ (∀ c ∈ clauses, c.connective? ≠ some .or) ∧ NormalAll clauses
  | .not clause => clause.isNot = false ∧ Normal clause

/-- Every clause is in normal form. -/
def NormalAll : List Clause → Prop
  | [] => True
  | clause :: rest => Normal clause ∧ NormalAll rest

end

theorem normalAll_iff {clauses : List Clause} :
    NormalAll clauses ↔ ∀ c ∈ clauses, Normal c := by
  induction clauses with
  | nil => simp [NormalAll]
  | cons c rest ih => rw [NormalAll, ih, List.forall_mem_cons]

theorem group_normal_iff {clauses : List Clause} :
    Normal (group k clauses) ↔
      2 ≤ clauses.length ∧ ∀ c ∈ clauses, c.connective? ≠ some k ∧ Normal c := by
  cases k <;> simp only [group, Normal, normalAll_iff, forall_and]

theorem reading_group (clauses : List Clause) :
    (group k clauses).reading verdict = k.joined (readings verdict clauses) := by
  cases k <;> rfl

/-! ## Dissolving groups -/

/-- A clause either is a group of the kind that surrounds it, and dissolves, or stays whole. -/
theorem spread_cases (k : Connective) (c : Clause) :
    c = group k (spread k c) ∨ c.connective? ≠ some k ∧ spread k c = [c] := by
  cases k <;> cases c <;> simp [spread, group, connective?]

theorem joined_spread (c : Clause) :
    k.joined (readings verdict (spread k c)) = c.reading verdict := by
  rcases spread_cases k c with h | ⟨_, h⟩
  · conv => rhs; rw [h, reading_group]
  · rw [h]
    exact k.joined_singleton _

theorem joined_flatMap_spread (clauses : List Clause) :
    k.joined (readings verdict (clauses.flatMap (spread k))) =
      k.joined (readings verdict clauses) := by
  induction clauses with
  | nil => rfl
  | cons c rest ih =>
      rw [List.flatMap_cons, readings_append, Connective.joined_append, joined_spread, ih, readings,
        Connective.joined_cons]

theorem normal_of_mem_spread {c d : Clause} (hc : Normal c) (hd : d ∈ spread k c) :
    d.connective? ≠ some k ∧ Normal d := by
  rcases spread_cases k c with h | ⟨hk, h⟩
  · rw [h, group_normal_iff] at hc
    exact hc.2 d hd
  · rw [h, List.mem_singleton] at hd
    rw [hd]
    exact ⟨hk, hc⟩

/-- What a group becomes: its only clause, or the group of the clauses that are left. -/
theorem join_eq_ok {clauses : List Clause} {c : Clause} (h : join k clauses = .ok c) :
    clauses.flatMap (spread k) = [c] ∨
      2 ≤ (clauses.flatMap (spread k)).length ∧ c = group k (clauses.flatMap (spread k)) := by
  unfold join at h
  split at h
  · cases h
  · next heq =>
      cases h
      exact .inl heq
  · next hempty hsingle =>
      right
      constructor
      · -- Neither no clause nor a single one is left.
        rcases hs : clauses.flatMap (spread k) with _ | ⟨a, _ | ⟨b, rest⟩⟩
        · exact absurd hs hempty
        · exact absurd hs (hsingle a)
        · simp
      · cases k <;> cases h <;> rfl

theorem reading_join {clauses : List Clause} {c : Clause} (h : join k clauses = .ok c) :
    c.reading verdict = k.joined (readings verdict clauses) := by
  rw [← joined_flatMap_spread]
  rcases join_eq_ok h with hs | ⟨_, rfl⟩
  · rw [hs]
    exact (k.joined_singleton _).symm
  · exact reading_group _

theorem join_normal {clauses : List Clause} {c : Clause} (hn : NormalAll clauses)
    (h : join k clauses = .ok c) : Normal c := by
  have hspread : ∀ d ∈ clauses.flatMap (spread k), d.connective? ≠ some k ∧ Normal d := by
    intro d hd
    rcases List.mem_flatMap.1 hd with ⟨a, ha, hda⟩
    exact normal_of_mem_spread (normalAll_iff.1 hn a ha) hda
  rcases join_eq_ok h with hs | ⟨hlen, rfl⟩
  · exact (hspread c (by rw [hs]; exact List.mem_singleton_self c)).2
  · exact group_normal_iff.2 ⟨hlen, hspread⟩

/-! ## Negation -/

theorem reading_negate (c : Clause) : c.negate.reading verdict = (c.reading verdict).neg := by
  cases c with
  | not c =>
      show c.reading verdict = ((c.reading verdict).neg).neg
      rw [Truth.neg_neg]
  | leaf l => rfl
  | and cs => rfl
  | or cs => rfl

theorem negate_normal {c : Clause} (h : Normal c) : Normal c.negate := by
  cases c with
  | not c => exact h.2
  | leaf l => exact ⟨rfl, h⟩
  | and cs => exact ⟨rfl, h⟩
  | or cs => exact ⟨rfl, h⟩

end Clause

/-! ## The clause of a call -/

namespace Call

theorem checkedLeaf_eq_ok {operator : Operator} {column : String} {literals : List Literal}
    {l : Leaf} (h : checkedLeaf operator column literals = .ok l) :
    l = .make operator column literals := by
  unfold checkedLeaf at h
  split at h
  · cases h
  · split at h <;> cases h
    rfl

mutual

/-- Building a clause keeps the verdict. -/
theorem reading_clause : (call : Call) → {c : Clause} → call.clause = .ok c →
    c.reading verdict = call.reading verdict
  | .leaf _ _ _, c, h => by
      rw [clause] at h
      obtain ⟨l, hl, rfl⟩ := map_eq_ok_iff.1 h
      rw [checkedLeaf_eq_ok hl, Clause.reading, reading]
  | .notLeaf _ _ _, c, h => by
      rw [clause] at h
      obtain ⟨l, hl, rfl⟩ := map_eq_ok_iff.1 h
      rw [checkedLeaf_eq_ok hl, Clause.reading_negate, Clause.reading, reading]
  | .group k calls, c, h => by
      rw [clause] at h
      obtain ⟨cs, hcs, hj⟩ := bind_eq_ok_iff.1 h
      rw [Clause.reading_join hj, readings_clauses calls hcs, reading]
  | .notGroup calls, c, h => by
      rw [clause] at h
      obtain ⟨cs, hcs, hb⟩ := bind_eq_ok_iff.1 h
      obtain ⟨d, hj, hd⟩ := bind_eq_ok_iff.1 hb
      rw [← pure_eq_ok_iff.1 hd, Clause.reading_negate, Clause.reading_join hj,
        readings_clauses calls hcs, reading]

/-- Building clauses keeps their verdicts. -/
theorem readings_clauses : (calls : List Call) → {cs : List Clause} → clauses calls = .ok cs →
    Clause.readings verdict cs = readings verdict calls
  | [], cs, h => by
      rw [clauses] at h
      cases h
      rfl
  | call :: rest, cs, h => by
      rw [clauses] at h
      obtain ⟨c, hc, hb⟩ := bind_eq_ok_iff.1 h
      obtain ⟨ds, hds, hcs⟩ := bind_eq_ok_iff.1 hb
      rw [← pure_eq_ok_iff.1 hcs, Clause.readings, reading_clause call hc,
        readings_clauses rest hds, readings]

end

mutual

/-- A clause that is built is in normal form. -/
theorem clause_normal : (call : Call) → {c : Clause} → call.clause = .ok c → c.Normal
  | .leaf _ _ _, c, h => by
      rw [clause] at h
      obtain ⟨l, _, rfl⟩ := map_eq_ok_iff.1 h
      trivial
  | .notLeaf _ _ _, c, h => by
      rw [clause] at h
      obtain ⟨l, _, rfl⟩ := map_eq_ok_iff.1 h
      exact Clause.negate_normal trivial
  | .group k calls, c, h => by
      rw [clause] at h
      obtain ⟨cs, hcs, hj⟩ := bind_eq_ok_iff.1 h
      exact Clause.join_normal (clauses_normal calls hcs) hj
  | .notGroup calls, c, h => by
      rw [clause] at h
      obtain ⟨cs, hcs, hb⟩ := bind_eq_ok_iff.1 h
      obtain ⟨d, hj, hd⟩ := bind_eq_ok_iff.1 hb
      rw [← pure_eq_ok_iff.1 hd]
      exact Clause.negate_normal (Clause.join_normal (clauses_normal calls hcs) hj)

/-- Clauses that are built are in normal form. -/
theorem clauses_normal : (calls : List Call) → {cs : List Clause} → clauses calls = .ok cs →
    Clause.NormalAll cs
  | [], cs, h => by
      rw [clauses] at h
      cases h
      trivial
  | call :: rest, cs, h => by
      rw [clauses] at h
      obtain ⟨c, hc, hb⟩ := bind_eq_ok_iff.1 h
      obtain ⟨ds, hds, hcs⟩ := bind_eq_ok_iff.1 hb
      rw [← pure_eq_ok_iff.1 hcs]
      exact ⟨clause_normal call hc, clauses_normal rest hds⟩

end

end Call

end ColumnScan
