import ColumnScan.Proofs.Predicate.Clauses

/-!
# Tables of leaves

Placing a clause replaces its leaves by places in a table, and the table takes in the leaves that it
lacks. A table only grows at its end, so an expression over it keeps its meaning while more clauses
are placed; the places that an expression names are numbered as they are met from left to right.
Main statement: `evaluate_build`, a search argument that is built from a program means what the
program says, and its table and expression have no slack.
-/

namespace ColumnScan

variable {verdict : Leaf → Truth}

/-! ## Numbering -/

/-- Read from left to right with the numbers below `n` known, each index is a known number or the
next one, and in the end the numbers below `m` are known. -/
inductive Numbered : Nat → List Nat → Nat → Prop
  | nil {n : Nat} : Numbered n [] n
  | known {n i m : Nat} {rest : List Nat} : i < n → Numbered n rest m → Numbered n (i :: rest) m
  | next {n m : Nat} {rest : List Nat} : Numbered (n + 1) rest m → Numbered n (n :: rest) m

namespace Numbered

theorem append {n m r : Nat} {xs ys : List Nat} (hx : Numbered n xs m) (hy : Numbered m ys r) :
    Numbered n (xs ++ ys) r := by
  induction hx with
  | nil => exact hy
  | known hi _ ih => exact .known hi (ih hy)
  | next _ ih => exact .next (ih hy)

/-- No number is forgotten. -/
theorem le {n m : Nat} {xs : List Nat} (h : Numbered n xs m) : n ≤ m := by
  induction h with
  | nil => exact Nat.le_refl _
  | known _ _ ih => exact ih
  | next _ ih => omega

/-- The new numbers, in the order of their first occurrence, are the ones that follow. -/
theorem eraseDups_filter {n m : Nat} {xs : List Nat} (h : Numbered n xs m) :
    (xs.filter (n ≤ ·)).eraseDups = List.range' n (m - n) := by
  induction h with
  | nil => simp
  | @known n i m rest hi hrest ih =>
      rw [List.filter_cons_of_neg (by simpa using hi)]
      exact ih
  | @next n m rest hrest ih =>
      have hle := hrest.le
      have hfilter : (rest.filter (n ≤ ·)).filter (fun b => !b == n) =
          rest.filter (n + 1 ≤ ·) := by
        rw [List.filter_filter]
        apply List.filter_congr
        intro b _
        by_cases hb : b = n
        · simp [hb]
        · simp only [beq_eq_false_iff_ne.2 hb, Bool.not_false, Bool.true_and, decide_eq_decide]
          omega
      rw [List.filter_cons_of_pos (by simp), List.eraseDups_cons, hfilter, ih,
        show m - n = m - (n + 1) + 1 by omega, List.range'_succ]

/-- Numbering from zero leaves no number out and meets the numbers in their order. -/
theorem eraseDups_eq_range {m : Nat} {xs : List Nat} (h : Numbered 0 xs m) :
    xs.eraseDups = List.range m := by
  have hx := h.eraseDups_filter
  rw [List.filter_eq_self.2 (by simp)] at hx
  rw [hx, List.range_eq_range', Nat.sub_zero]

theorem mem_iff {m i : Nat} {xs : List Nat} (h : Numbered 0 xs m) : i ∈ xs ↔ i < m := by
  rw [← List.mem_eraseDups, h.eraseDups_eq_range, List.mem_range]

end Numbered

/-! ## Placing leaves -/

/-- Leaves that are the same have the same verdict. -/
def RespectsSame (verdict : Leaf → Truth) : Prop := ∀ l m, l.same m = true → verdict l = verdict m

/-- No two leaves of a table are the same. -/
def DistinctLeaves (table : List Leaf) : Prop := table.Pairwise fun l m => l.same m = false

theorem Ieee.Double.compare?_eq_eq_symm {x y : Ieee.Double} (h : x.compare? y = some .eq) :
    y.compare? x = some .eq := by
  unfold compare? Format.compareNumbers at h ⊢
  rw [Bool.or_comm] at h
  split at h
  · cases h
  · next hn =>
      rw [if_neg hn]
      rw [Option.some.injEq, Std.LawfulEqOrd.compare_eq_iff_eq] at h ⊢
      exact h.symm

theorem Literal.same_comm (a b : Literal) : a.same b = b.same a := by
  by_cases h : ∃ x y, a = .float x ∧ b = .float y
  · rcases h with ⟨x, y, rfl, rfl⟩
    rw [same, same, Bool.eq_iff_iff, beq_iff_eq, beq_iff_eq]
    exact ⟨Ieee.Double.compare?_eq_eq_symm, Ieee.Double.compare?_eq_eq_symm⟩
  · -- Off the floating-point literals the same literals are equal ones.
    rw [same.eq_2 a b fun x y hx hy => h ⟨x, y, hx, hy⟩,
      same.eq_2 b a fun x y hx hy => h ⟨y, x, hy, hx⟩, BEq.comm]

theorem Leaf.sameLiterals_comm (as bs : List Literal) : sameLiterals as bs = sameLiterals bs as := by
  induction as generalizing bs with
  | nil => cases bs <;> rfl
  | cons a as ih =>
      cases bs with
      | nil => rfl
      | cons b bs => rw [sameLiterals, sameLiterals, Literal.same_comm, ih]

theorem Leaf.same_comm (l m : Leaf) : l.same m = m.same l := by
  unfold same
  rw [sameLiterals_comm, BEq.comm (a := l.operator), BEq.comm (a := l.column)]

/-- The place of a leaf in such a table is the only one. -/
theorem DistinctLeaves.eq_of_same {table : List Leaf} (h : DistinctLeaves table) {i j : Nat}
    {l m : Leaf} (hi : table[i]? = some l) (hj : table[j]? = some m) (hs : l.same m = true) :
    i = j := by
  rcases List.getElem?_eq_some_iff.1 hi with ⟨hi', rfl⟩
  rcases List.getElem?_eq_some_iff.1 hj with ⟨hj', rfl⟩
  have hp := List.pairwise_iff_getElem.1 h
  rcases Nat.lt_trichotomy i j with hlt | heq | hgt
  · rw [hp i j hi' hj' hlt] at hs
    cases hs
  · exact heq
  · rw [Leaf.same_comm, hp j i hj' hi' hgt] at hs
    cases hs

/-- The verdict at a place of a table, unknown beyond it. -/
def verdictAt (verdict : Leaf → Truth) (table : List Leaf) (i : Nat) : Truth :=
  (table.map verdict)[i]?.getD .unknown

/-- A leaf is found at the place of a leaf that is the same, or is put at the end. -/
theorem placeLeaf_cases (l : Leaf) (table : List Leaf) :
    (∃ i m, placeLeaf l table = (i, table) ∧ table[i]? = some m ∧ m.same l = true) ∨
      placeLeaf l table = (table.length, table ++ [l]) ∧ ∀ m ∈ table, m.same l = false := by
  unfold placeLeaf
  split
  · next i h =>
      obtain ⟨hi, hsame, _⟩ := List.findIdx?_eq_some_iff_getElem.1 h
      exact .inl ⟨i, table[i], rfl, List.getElem?_eq_getElem hi, hsame⟩
  · next h => exact .inr ⟨rfl, List.findIdx?_eq_none_iff.1 h⟩

theorem verdictAt_eq_of_extends {table whole : List Leaf} {i : Nat} {m : Leaf}
    (h : table <+: whole) (hi : table[i]? = some m) : verdictAt verdict whole i = verdict m := by
  rcases h with ⟨more, rfl⟩
  have hlt : i < table.length := (List.getElem?_eq_some_iff.1 hi).1
  rw [verdictAt, List.getElem?_map, List.getElem?_append_left hlt, hi]
  rfl

namespace Clause

mutual

/-- A table only grows at its end. -/
theorem prefix_place (table : List Leaf) : (c : Clause) → table <+: (c.place table).2
  | .leaf l => by
      rcases placeLeaf_cases l table with ⟨i, m, h, _⟩ | ⟨h, _⟩
      · have hkept : (place table (.leaf l)).2 = table := by rw [place, h]
        exact hkept.symm ▸ List.prefix_rfl
      · have hgrown : (place table (.leaf l)).2 = table ++ [l] := by rw [place, h]
        exact hgrown.symm ▸ List.prefix_append ..
  | .and clauses => prefix_placeAll table clauses
  | .or clauses => prefix_placeAll table clauses
  | .not clause => prefix_place table clause

/-- A table only grows at its end, clause after clause. -/
theorem prefix_placeAll (table : List Leaf) :
    (clauses : List Clause) → table <+: (placeAll table clauses).2
  | [] => List.prefix_rfl
  | clause :: rest => (prefix_place table clause).trans (prefix_placeAll _ rest)

end

mutual

/-- A table in which no two leaves are the same stays so. -/
theorem place_distinct {table : List Leaf} (ht : DistinctLeaves table) :
    (c : Clause) → DistinctLeaves (c.place table).2
  | .leaf l => by
      rcases placeLeaf_cases l table with ⟨i, m, h, _⟩ | ⟨h, hnew⟩ <;> rw [place, h]
      · exact ht
      · apply List.pairwise_append.2
        refine ⟨ht, List.pairwise_singleton _ _, ?_⟩
        intro m hm l' hl'
        rw [List.mem_singleton.1 hl']
        exact hnew m hm
  | .and clauses => placeAll_distinct ht clauses
  | .or clauses => placeAll_distinct ht clauses
  | .not clause => place_distinct ht clause

/-- A table in which no two leaves are the same stays so, clause after clause. -/
theorem placeAll_distinct {table : List Leaf} (ht : DistinctLeaves table) :
    (clauses : List Clause) → DistinctLeaves (placeAll table clauses).2
  | [] => ht
  | clause :: rest => placeAll_distinct (place_distinct ht clause) rest

end

mutual

/-- The places that an expression names are in the table or the ones that come next. -/
theorem place_numbered (table : List Leaf) : (c : Clause) →
    Numbered table.length (c.place table).1.indices (c.place table).2.length
  | .leaf l => by
      rcases placeLeaf_cases l table with ⟨i, m, h, hi, _⟩ | ⟨h, _⟩ <;> rw [place, h]
      · exact .known (List.getElem?_eq_some_iff.1 hi).1 .nil
      · show Numbered table.length [table.length] (table ++ [l]).length
        rw [List.length_append]
        exact .next .nil
  | .and clauses => placeAll_numbered table clauses
  | .or clauses => placeAll_numbered table clauses
  | .not clause => place_numbered table clause

/-- The places that expressions name are numbered from one expression to the next. -/
theorem placeAll_numbered (table : List Leaf) : (clauses : List Clause) →
    Numbered table.length (Expression.indicesAll (placeAll table clauses).1)
      (placeAll table clauses).2.length
  | [] => .nil
  | clause :: rest => (place_numbered table clause).append (placeAll_numbered _ rest)

end

mutual

/-- The expression of a clause has the verdict of the clause, over its own table and every longer
one. -/
theorem evaluate_place (hv : RespectsSame verdict) {table whole : List Leaf} : (c : Clause) →
    (c.place table).2 <+: whole →
      (c.place table).1.evaluate (verdictAt verdict whole) = c.reading verdict
  | .leaf l, hw => by
      -- A leaf that is there already stands for this one: the two are the same.
      rcases placeLeaf_cases l table with ⟨i, m, h, hi, hs⟩ | ⟨h, _⟩ <;> rw [place, h] at hw ⊢
      · show verdictAt verdict whole i = verdict l
        rw [verdictAt_eq_of_extends hw hi, hv m l hs]
      · show verdictAt verdict whole table.length = verdict l
        exact verdictAt_eq_of_extends hw (by simp)
  | .and clauses, hw => congrArg Truth.all (evaluateAll_placeAll hv clauses hw)
  | .or clauses, hw => congrArg Truth.any (evaluateAll_placeAll hv clauses hw)
  | .not clause, hw => congrArg Truth.neg (evaluate_place hv clause hw)

/-- The expressions of clauses have the verdicts of the clauses. -/
theorem evaluateAll_placeAll (hv : RespectsSame verdict) {table whole : List Leaf} :
    (clauses : List Clause) → (placeAll table clauses).2 <+: whole →
      Expression.evaluateAll (verdictAt verdict whole) (placeAll table clauses).1 =
        readings verdict clauses
  | [], _ => rfl
  | clause :: rest, hw => by
      show Expression.evaluate _ (place table clause).1 ::
        Expression.evaluateAll _ (placeAll (place table clause).2 rest).1 = _
      rw [evaluate_place hv clause ((prefix_placeAll _ rest).trans hw),
        evaluateAll_placeAll hv rest hw, readings]

end

end Clause

/-! ## Normal form of expressions -/

namespace Expression

/-- The connective that joins an expression, if it is a group. -/
def connective? : Expression → Option Connective
  | .and _ => some .and
  | .or _ => some .or
  | _ => none

/-- Whether an expression is a negation. -/
def isNot : Expression → Bool
  | .not _ => true
  | _ => false

mutual

/-- Everywhere in an expression, a group has at least two children, none of them a group of its own
kind, and a negation is not negated. -/
def Normal : Expression → Prop
  | .and children =>
    2 ≤ children.length ∧ (∀ e ∈ children, e.connective? ≠ some .and) ∧ NormalAll children
  | .or children =>
    2 ≤ children.length ∧ (∀ e ∈ children, e.connective? ≠ some .or) ∧ NormalAll children
  | .not child => child.isNot = false ∧ Normal child
  | .leaf _ => True
  | .constant _ => True

/-- Every expression is in normal form. -/
def NormalAll : List Expression → Prop
  | [] => True
  | e :: rest => Normal e ∧ NormalAll rest

end

end Expression

namespace Clause

theorem connective?_place (table : List Leaf) (c : Clause) :
    (c.place table).1.connective? = c.connective? := by cases c <;> rfl

theorem isNot_place (table : List Leaf) (c : Clause) :
    (c.place table).1.isNot = c.isNot := by cases c <;> rfl

theorem length_placeAll (table : List Leaf) (clauses : List Clause) :
    (placeAll table clauses).1.length = clauses.length := by
  induction clauses generalizing table with
  | nil => rfl
  | cons c rest ih => exact congrArg Nat.succ (ih _)

theorem connective?_placeAll {k : Connective} (table : List Leaf) {clauses : List Clause}
    (h : ∀ c ∈ clauses, c.connective? ≠ some k) :
    ∀ e ∈ (placeAll table clauses).1, e.connective? ≠ some k := by
  induction clauses generalizing table with
  | nil => simp [placeAll]
  | cons c rest ih =>
      intro e he
      rcases List.mem_cons.1 he with rfl | he
      · rw [connective?_place]
        exact h c List.mem_cons_self
      · exact ih _ (fun d hd => h d (List.mem_cons_of_mem _ hd)) e he

mutual

/-- Placing keeps the normal form. -/
theorem place_normal (table : List Leaf) : (c : Clause) → c.Normal → (c.place table).1.Normal
  | .leaf _, _ => trivial
  | .and clauses, ⟨hlen, hkind, hall⟩ =>
    ⟨by rw [length_placeAll]; exact hlen, connective?_placeAll table hkind,
      placeAll_normal table clauses hall⟩
  | .or clauses, ⟨hlen, hkind, hall⟩ =>
    ⟨by rw [length_placeAll]; exact hlen, connective?_placeAll table hkind,
      placeAll_normal table clauses hall⟩
  | .not clause, ⟨hnot, h⟩ => ⟨by rw [isNot_place]; exact hnot, place_normal table clause h⟩

/-- Placing keeps the normal form of every clause. -/
theorem placeAll_normal (table : List Leaf) : (clauses : List Clause) → NormalAll clauses →
    Expression.NormalAll (placeAll table clauses).1
  | [], _ => trivial
  | clause :: rest, ⟨h, hrest⟩ => ⟨place_normal table clause h, placeAll_normal _ rest hrest⟩

end

end Clause

/-! ## Building a search argument -/

namespace SearchArgument

/-- What a program is built into: its clause, placed in an empty table. -/
theorem build_eq_ok {k : Connective} {calls : List Call} {a : SearchArgument}
    (h : build k calls = .ok a) :
    ∃ c, (Call.group k calls).clause = .ok c ∧ a.leaves = (c.place []).2 ∧
      a.expression = (c.place []).1 := by
  unfold build at h
  obtain ⟨cs, hcs, hb⟩ := bind_eq_ok_iff.1 h
  obtain ⟨c, hc, hparts⟩ := bind_eq_ok_iff.1 hb
  refine ⟨c, ?_, ofParts_eq_ok_iff.1 hparts⟩
  rw [Call.clause]
  exact bind_eq_ok_iff.2 ⟨cs, hcs, hc⟩

/-- A search argument that is built has the verdict of its program. Its table holds each leaf once,
its expression names every place of the table, the places in the order in which they are first met
are the numbers from zero on, and the expression is in normal form. -/
theorem evaluate_build {k : Connective} {calls : List Call} {a : SearchArgument}
    (h : build k calls = .ok a) :
    (∀ verdict : Leaf → Truth, RespectsSame verdict →
      a.evaluate (a.leaves.map verdict) = (Call.group k calls).reading verdict) ∧
    (∀ {i j : Nat} {l m : Leaf}, a.leaves[i]? = some l → a.leaves[j]? = some m →
      l.same m = true → i = j) ∧
    (∀ i, i ∈ a.expression.indices ↔ i < a.leaves.length) ∧
    a.expression.indices.eraseDups = List.range a.leaves.length ∧
    a.expression.Normal := by
  rcases build_eq_ok h with ⟨c, hc, hleaves, hexpression⟩
  have hnumbered : Numbered 0 a.expression.indices a.leaves.length := by
    rw [hleaves, hexpression]
    exact Clause.place_numbered [] c
  refine ⟨?_, ?_, ?_, hnumbered.eraseDups_eq_range, ?_⟩
  · intro verdict hv
    show a.expression.evaluate (verdictAt verdict a.leaves) = _
    rw [hleaves, hexpression, Clause.evaluate_place hv c List.prefix_rfl, Call.reading_clause _ hc]
  · have hdistinct : DistinctLeaves a.leaves := by
      rw [hleaves]
      exact Clause.place_distinct .nil c
    intro i j l m hi hj hs
    exact hdistinct.eq_of_same hi hj hs
  · intro i
    rw [← List.mem_eraseDups, hnumbered.eraseDups_eq_range, List.mem_range]
  · rw [hexpression]
    exact Clause.place_normal [] c (Call.clause_normal _ hc)

/-- A program in which a group of one clause and a double negation dissolve into the conjunction
around them, and a leaf comes back in another case of its column. -/
def dissolvingCalls : List Call :=
  [.group .or [.group .and [.equals "Id" (.long 1), .greaterThan "b" (.long 2)]],
    .notGroup [.notGroup [.isNull "c", .equals "ID" (.long 1)]]]

theorem evaluate_build_dissolvingCalls :
    ∃ a, build .and dissolvingCalls = .ok a ∧
      a.evaluate (a.leaves.map fun l => .ofBool (l.operator != .lessThanEquals)) = .yes ∧
      a.expression.indices.eraseDups = List.range a.leaves.length ∧ a.expression.Normal := by
  obtain ⟨a, h⟩ : ∃ a, build .and dissolvingCalls = .ok a := ⟨_, rfl⟩
  obtain ⟨hmeaning, _, _, horder, hnormal⟩ := evaluate_build h
  have hverdict : RespectsSame fun l => .ofBool (l.operator != .lessThanEquals) := by
    intro l m hs
    have hop : l.operator = m.operator := by
      simp only [Leaf.same, Bool.and_eq_true, beq_iff_eq] at hs
      exact hs.1.1
    show Truth.ofBool (l.operator != .lessThanEquals) = .ofBool (m.operator != .lessThanEquals)
    rw [hop]
  exact ⟨a, h, (hmeaning _ hverdict).trans rfl, horder, hnormal⟩

end SearchArgument

end ColumnScan
