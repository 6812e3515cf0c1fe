import ColumnScan.Predicate.SearchArgument

/-!
# Verdicts of lists

The laws of the three-valued connectives that regrouping a predicate rests on: conjunction and
disjunction are associative with a unit, so the verdict of a list is that of its parts joined, and a
group that is dissolved into its surroundings counts as before. Main statement: `joined_append`.
-/

namespace ColumnScan

namespace Truth

theorem conj_assoc (a b c : Truth) : (a.conj b).conj c = a.conj (b.conj c) := by
  cases a <;> cases b <;> cases c <;> rfl

theorem disj_assoc (a b c : Truth) : (a.disj b).disj c = a.disj (b.disj c) := by
  cases a <;> cases b <;> cases c <;> rfl

@[simp] theorem conj_yes (a : Truth) : a.conj .yes = a := by cases a <;> rfl

@[simp] theorem disj_no (a : Truth) : a.disj .no = a := by cases a <;> rfl

@[simp] theorem neg_neg (a : Truth) : a.neg.neg = a := by cases a <;> rfl

instance : Std.Associative conj := ⟨conj_assoc⟩

instance : Std.Associative disj := ⟨disj_assoc⟩

end Truth

namespace Connective

/-- The connective of two verdicts. -/
def join : Connective → Truth → Truth → Truth
  | .and => Truth.conj
  | .or => Truth.disj

/-- The verdict of verdicts that a connective joins. -/
def joined : Connective → List Truth → Truth
  | .and => Truth.all
  | .or => Truth.any

@[simp] theorem joined_singleton (k : Connective) (v : Truth) : k.joined [v] = v := by
  cases k <;> cases v <;> rfl

/-- A group inside a group of its own kind may be dissolved. -/
theorem joined_append (k : Connective) (vs ws : List Truth) :
    k.joined (vs ++ ws) = k.join (k.joined vs) (k.joined ws) := by
  cases k with
  | and =>
      show (vs ++ ws).foldl Truth.conj .yes = _
      rw [List.foldl_append, ← Truth.conj_yes (vs.foldl Truth.conj .yes)]
      exact List.foldl_assoc
  | or =>
      show (vs ++ ws).foldl Truth.disj .no = _
      rw [List.foldl_append, ← Truth.disj_no (vs.foldl Truth.disj .no)]
      exact List.foldl_assoc

theorem joined_cons (k : Connective) (v : Truth) (vs : List Truth) :
    k.joined (v :: vs) = k.join v (k.joined vs) := by
  rw [← List.singleton_append, joined_append, joined_singleton]

end Connective

end ColumnScan
