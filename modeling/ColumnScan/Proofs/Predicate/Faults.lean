import ColumnScan.Predicate.Draft
import ColumnScan.Proofs.Predicate.LeafTable

/-!
# Programs that are refused

A program is refused for the first call in it that is wrong by itself, where a group is looked at when
it ends, after the calls in it. A group that has a call becomes a clause unless one of its calls is
wrong, so no fault makes a group look empty. A draft passes on the first fault it has met, and so it
ends as the program does that is read up to its first fault. Main statements: `Call.status_clause`, a
call is checked by checking the calls in it and then itself; `GroupDraft.build_addAll`, drafting comes
to the same; and `SearchArgument.build_first_fault`.
-/

namespace ColumnScan

variable {k : Connective} {e : PredicateError}

/-! ## What is wrong with a call itself -/

namespace Call

/-- The call compares a column, or negates that. -/
inductive Compares : Call → Operator → String → List Literal → Prop
  | leaf {operator : Operator} {column : String} {literals : List Literal} :
    Compares (.leaf operator column literals) operator column literals
  | notLeaf {operator : Operator} {column : String} {literals : List Literal} :
    Compares (.notLeaf operator column literals) operator column literals

/-- The call joins calls, or negates that. -/
inductive Joins : Call → Connective → List Call → Prop
  | group {k : Connective} {calls : List Call} : Joins (.group k calls) k calls
  | notGroup {calls : List Call} : Joins (.notGroup calls) .and calls

/-- What is wrong with a call, apart from the calls in it. -/
inductive FaultyBy (call : Call) : PredicateError → Prop
  | blankColumn {operator : Operator} {column : String} {literals : List Literal} :
    call.Compares operator column literals → Text.isBlank column = true → FaultyBy call .emptyColumn
  | emptyList {column : String} :
    call.Compares .inList column [] → Text.isBlank column = false →
      FaultyBy call (.emptyList (Text.lowercase column))
  | emptyGroup {k : Connective} : call.Joins k [] → FaultyBy call (.emptyGroup k)

/-- Checks that a group has a call. -/
def checkGroup (k : Connective) : List Call → Except PredicateError Unit
  | [] => .error (.emptyGroup k)
  | _ :: _ => .ok ()

/-- Checks a call, not the calls in it. -/
def check : Call → Except PredicateError Unit
  | .leaf operator column literals | .notLeaf operator column literals =>
    status (checkedLeaf operator column literals)
  | .group k calls => checkGroup k calls
  | .notGroup calls => checkGroup .and calls

theorem checkedLeaf_eq_error_iff {operator : Operator} {column : String} {literals : List Literal} :
    checkedLeaf operator column literals = .error e ↔
      Text.isBlank column = true ∧ e = .emptyColumn ∨
        Text.isBlank column = false ∧ (operator = .inList ∧ literals = []) ∧
          e = .emptyList (Text.lowercase column) := by
  unfold checkedLeaf
  cases hblank : Text.isBlank column with
  | true => simp [eq_comm]
  | false =>
    by_cases hempty : operator = .inList ∧ literals = []
    · simp [hempty, eq_comm]
    · simp [hempty]

theorem Compares.faultyBy_iff {call : Call} {operator : Operator} {column : String}
    {literals : List Literal} (h : call.Compares operator column literals) :
    call.FaultyBy e ↔ status (checkedLeaf operator column literals) = .error e := by
  rw [status_eq_error_iff, checkedLeaf_eq_error_iff]
  constructor
  · intro hfault
    cases hfault with
    | blankColumn h' hblank => cases h <;> cases h' <;> exact .inl ⟨hblank, rfl⟩
    | emptyList h' hnamed => cases h <;> cases h' <;> exact .inr ⟨hnamed, ⟨rfl, rfl⟩, rfl⟩
    | emptyGroup h' => cases h <;> cases h'
  · rintro (⟨hblank, rfl⟩ | ⟨hnamed, ⟨rfl, rfl⟩, rfl⟩)
    · exact .blankColumn h hblank
    · exact .emptyList h hnamed

theorem Joins.faultyBy_iff {call : Call} {calls : List Call} (h : call.Joins k calls) :
    call.FaultyBy e ↔ checkGroup k calls = .error e := by
  constructor
  · intro hfault
    cases hfault with
    | blankColumn h' | emptyList h' => cases h <;> cases h'
    | emptyGroup h' => cases h <;> cases h' <;> rfl
  · intro hcheck
    cases calls with
    | nil =>
      cases hcheck
      exact .emptyGroup h
    | cons => cases hcheck

/-- The check of a call finds what is wrong with it. -/
theorem check_eq_error_iff {call : Call} : call.check = .error e ↔ call.FaultyBy e := by
  cases call with
  | leaf => exact Compares.leaf.faultyBy_iff.symm
  | notLeaf => exact Compares.notLeaf.faultyBy_iff.symm
  | group => exact Joins.group.faultyBy_iff.symm
  | notGroup => exact Joins.notGroup.faultyBy_iff.symm

/-! ## The calls of a program -/

mutual

/-- A call and the calls in it, in the order in which they end. -/
def ended : Call → List Call
  | .leaf operator column literals => [.leaf operator column literals]
  | .notLeaf operator column literals => [.notLeaf operator column literals]
  | .group k calls => endedAll calls ++ [.group k calls]
  | .notGroup calls => endedAll calls ++ [.notGroup calls]

/-- Calls and the calls in them, in the order in which they end. -/
def endedAll : List Call → List Call
  | [] => []
  | call :: rest => ended call ++ endedAll rest

end

/-- A call is another one or stands somewhere in it. -/
inductive Within (inner : Call) : Call → Prop
  | self : Within inner inner
  | inGroup {k : Connective} {outer call : Call} {calls : List Call} :
    outer.Joins k calls → call ∈ calls → Within inner call → Within inner outer

theorem mem_endedAll_iff {calls : List Call} {inner : Call} :
    inner ∈ endedAll calls ↔ ∃ call ∈ calls, inner ∈ call.ended := by
  induction calls with
  | nil => simp [endedAll]
  | cons call rest ih => rw [endedAll, List.mem_append, ih, List.exists_mem_cons_iff]

theorem Joins.mem_ended_iff {outer : Call} {calls : List Call} (h : outer.Joins k calls)
    {inner : Call} : inner ∈ outer.ended ↔ inner = outer ∨ ∃ call ∈ calls, inner ∈ call.ended := by
  cases h <;> rw [ended, List.mem_append, mem_endedAll_iff, List.mem_singleton, or_comm]

theorem within_of_mem_ended {inner : Call} : (outer : Call) → inner ∈ outer.ended → inner.Within outer
  | .leaf _ _ _, h | .notLeaf _ _ _, h => by
    rw [ended, List.mem_singleton] at h
    exact h ▸ .self
  | .group _ _, h => by
    rcases Joins.group.mem_ended_iff.1 h with rfl | ⟨call, hcall, hin⟩
    · exact .self
    · exact .inGroup .group hcall (within_of_mem_ended call hin)
  | .notGroup _, h => by
    rcases Joins.notGroup.mem_ended_iff.1 h with rfl | ⟨call, hcall, hin⟩
    · exact .self
    · exact .inGroup .notGroup hcall (within_of_mem_ended call hin)

/-- Every call that stands in a program ends, and nothing else does. -/
theorem mem_ended_iff_within {inner outer : Call} : inner ∈ outer.ended ↔ inner.Within outer := by
  refine ⟨within_of_mem_ended outer, fun h => ?_⟩
  induction h with
  | self => cases inner <;> simp [ended]
  | inGroup hjoins hcall _ ih => exact hjoins.mem_ended_iff.2 (.inr ⟨_, hcall, ih⟩)

end Call

/-! ## Groups that have a call -/

theorem Clause.spread_ne_nil {c : Clause} (h : c.Normal) : spread k c ≠ [] := by
  rcases spread_cases k c with hgroup | ⟨_, hwhole⟩
  · rw [hgroup, group_normal_iff] at h
    exact List.ne_nil_of_length_pos (Nat.lt_of_lt_of_le Nat.two_pos h.1)
  · rw [hwhole]
    exact List.cons_ne_nil _ _

/-- Clauses in normal form make a group, unless there are none. -/
theorem Clause.exists_join {clauses : List Clause} (h : NormalAll clauses) (hne : clauses ≠ []) :
    ∃ c, join k clauses = .ok c := by
  have hspread : clauses.flatMap (spread k) ≠ [] := by
    obtain ⟨c, rest, rfl⟩ := List.exists_cons_of_ne_nil hne
    rw [List.flatMap_cons]
    exact List.append_ne_nil_of_left_ne_nil (spread_ne_nil h.1) _
  unfold join
  split
  · next hnil => exact absurd hnil hspread
  · exact ⟨_, rfl⟩
  · cases k <;> exact ⟨_, rfl⟩

namespace Call

theorem clauses_ne_nil {call : Call} {rest : List Call} {cs : List Clause}
    (h : clauses (call :: rest) = .ok cs) : cs ≠ [] := by
  rw [clauses] at h
  obtain ⟨c, _, h⟩ := bind_eq_ok_iff.1 h
  obtain ⟨rest, _, h⟩ := bind_eq_ok_iff.1 h
  obtain rfl := pure_eq_ok_iff.1 h
  exact List.cons_ne_nil _ _

/-- The clauses of a group without a fault in it can be joined if it has a call. -/
theorem status_join {calls : List Call} {cs : List Clause} (h : clauses calls = .ok cs) :
    status (Clause.join k cs) = checkGroup k calls := by
  cases calls with
  | nil =>
    cases h
    rfl
  | cons call rest =>
    exact status_eq_ok_iff.2 (Clause.exists_join (clauses_normal _ h) (clauses_ne_nil h))

mutual

/-- A call becomes a clause if the calls in it pass their checks and then it passes its own. -/
theorem status_clause : (call : Call) → status call.clause = forM call.ended check
  | .leaf operator column literals => by
    rw [clause, ended, forM_singleton, status_map, check]
  | .notLeaf operator column literals => by
    rw [clause, ended, forM_singleton, status_map, check]
  | .group k calls => by
    rw [clause, ended, List.forM_append, forM_singleton, ← status_clauses calls]
    -- The group is joined only once its calls are clauses, and then it fails for being empty alone.
    exact status_bind_of_ok fun _ h => status_join h
  | .notGroup calls => by
    rw [clause, ended, List.forM_append, forM_singleton, ← status_clauses calls]
    exact status_bind_of_ok fun _ h => (status_bind_pure _ Clause.negate).trans (status_join h)

theorem status_clauses : (calls : List Call) → status (clauses calls) = forM (endedAll calls) check
  | [] => rfl
  | call :: rest => by
    rw [clauses, endedAll, List.forM_append, ← status_clause call]
    exact status_bind fun c =>
      (status_bind_pure (clauses rest) (c :: ·)).trans (status_clauses rest)

end

/-- A call that becomes no clause fails for the first call in it that is wrong. -/
theorem clause_eq_error_iff {call : Call} :
    call.clause = .error e ↔ ∃ before bad after, call.ended = before ++ bad :: after ∧
      (∀ earlier ∈ before, ∀ e', ¬earlier.FaultyBy e') ∧ bad.FaultyBy e := by
  rw [← status_eq_error_iff, status_clause]
  exact forM_eq_error_iff_first fun _ _ => check_eq_error_iff

/-- A call becomes no clause if some call in it is wrong. -/
theorem exists_clause_eq_error_iff {call : Call} :
    (∃ e, call.clause = .error e) ↔ ∃ bad : Call, bad.Within call ∧ ∃ e, bad.FaultyBy e := by
  simp only [← status_eq_error_iff (x := call.clause), status_clause, exists_forM_eq_error_iff,
    check_eq_error_iff, mem_ended_iff_within]

theorem clause_notGroup (calls : List Call) :
    (notGroup calls).clause = (group .and calls).clause.map Clause.negate := by
  rw [clause, clause]
  cases clauses calls with
  | error e => rfl
  | ok cs => cases Clause.join .and cs <;> rfl

end Call

/-! ## Drafting -/

namespace GroupDraft

/-- What has been drafted: the clauses, unless something was wrong. -/
def drafted (d : GroupDraft) : Except PredicateError (List Clause) :=
  match d.fault with
  | some e => .error e
  | none => .ok d.clauses

theorem finish_eq (d : GroupDraft) : d.finish = d.drafted >>= Clause.join d.connective := by
  unfold finish drafted
  cases d.fault <;> rfl

theorem connective_take (d : GroupDraft) (x : Except PredicateError Clause) :
    (d.take x).connective = d.connective := by
  cases x <;> rfl

/-- A clause is taken in unless something was wrong before it. -/
theorem drafted_take (d : GroupDraft) (x : Except PredicateError Clause) :
    (d.take x).drafted = d.drafted >>= fun cs => x >>= fun c => pure (cs ++ [c]) := by
  unfold take drafted
  cases d.fault <;> cases x <;> rfl

theorem connective_addAll (d : GroupDraft) (calls : List Call) :
    (d.addAll calls).connective = d.connective := by
  induction calls generalizing d with
  | nil => rfl
  | cons call rest ih =>
    rw [addAll, ih]
    cases call <;> exact connective_take _ _

theorem drafted_new (x : Except PredicateError (List Clause)) :
    (drafted { connective := k } >>= fun cs => x >>= fun more => pure (cs ++ more)) = x := by
  cases x <;> rfl

mutual

/-- A call is drafted as the clause that it becomes. -/
theorem add_eq (d : GroupDraft) : (call : Call) → d.add call = d.take call.clause
  | .leaf _ _ _ => rfl
  | .notLeaf _ _ _ => rfl
  | .group k calls => by
    rw [add, finish_eq, connective_addAll, drafted_addAll, drafted_new]
    rfl
  | .notGroup calls => by
    rw [add, finish_eq, connective_addAll, drafted_addAll, drafted_new, Call.clause_notGroup]
    rfl

/-- Calls are drafted as the clauses that they become, up to the first fault. -/
theorem drafted_addAll (d : GroupDraft) : (calls : List Call) → (d.addAll calls).drafted =
    d.drafted >>= fun cs => Call.clauses calls >>= fun more => pure (cs ++ more)
  | [] => by
    rw [addAll, Call.clauses]
    cases d.drafted with
    | error e => rfl
    | ok cs => exact congrArg Except.ok (List.append_nil cs).symm
  | call :: rest => by
    rw [addAll, drafted_addAll _ rest, add_eq d call, drafted_take, Call.clauses]
    simp only [bind_assoc, pure_bind, List.append_assoc, List.singleton_append]

end

/-- A draft ends as the clause of the group that it is a draft of. -/
theorem finish_addAll (k : Connective) (calls : List Call) :
    (addAll { connective := k } calls).finish = (Call.group k calls).clause := by
  rw [finish_eq, connective_addAll, drafted_addAll, drafted_new, Call.clause]

theorem build_addAll (k : Connective) (calls : List Call) :
    (addAll { connective := k } calls).build = SearchArgument.build k calls := by
  rw [build, finish_addAll, Call.clause, SearchArgument.build, bind_assoc]

end GroupDraft

/-! ## Building a search argument -/

namespace SearchArgument

/-- The places that a clause is given are in the table that it fills. -/
theorem exists_ofParts_place (c : Clause) :
    ∃ a, ofParts (c.place []).2 (c.place []).1 = .ok a := by
  have hplaces : ∀ i ∈ (c.place []).1.indices, i < (c.place []).2.length := fun i hi =>
    (Clause.place_numbered [] c).mem_iff.1 hi
  exact ⟨⟨_, _, hplaces⟩, ofParts_eq_ok_iff.2 ⟨rfl, rfl⟩⟩

/-- A program is refused as its group is: no leaf that is placed lies beyond the table. -/
theorem build_eq_error_iff {calls : List Call} :
    build k calls = .error e ↔ (Call.group k calls).clause = .error e := by
  have hbuild : build k calls = (Call.group k calls).clause >>= fun c =>
      ofParts (c.place []).2 (c.place []).1 := by
    rw [build, Call.clause, bind_assoc]
  rw [hbuild, bind_eq_error_iff]
  refine or_iff_left ?_
  rintro ⟨c, _, h⟩
  obtain ⟨a, ha⟩ := exists_ofParts_place c
  exact absurd (ha.symm.trans h) nofun

/-- A program is refused for the first call in it that is wrong by itself, in the order in which the
calls end, and only if there is one; never for a leaf beyond the table. A draft of the program ends in
the same way. -/
theorem build_first_fault (k : Connective) (calls : List Call) :
    (∀ e, build k calls = .error e ↔
      ∃ before bad after, (Call.group k calls).ended = before ++ bad :: after ∧
        (∀ earlier ∈ before, ∀ e', ¬earlier.FaultyBy e') ∧ bad.FaultyBy e) ∧
    ((∃ e, build k calls = .error e) ↔
      ∃ bad : Call, bad.Within (.group k calls) ∧ ∃ e, bad.FaultyBy e) ∧
    (∀ index size, build k calls ≠ .error (.danglingLeaf index size)) ∧
    (GroupDraft.addAll { connective := k } calls).build = build k calls := by
  simp only [ne_eq, build_eq_error_iff]
  refine ⟨fun e => Call.clause_eq_error_iff, Call.exists_clause_eq_error_iff, ?_,
    GroupDraft.build_addAll k calls⟩
  intro index size h
  obtain ⟨_, _, _, _, _, hbad⟩ := Call.clause_eq_error_iff.1 h
  cases hbad

/-- A program with three calls that are wrong: the empty group inside the negated one ends first. -/
def faultyCalls : List Call :=
  [.equals "id" (.long 1), .notGroup [.isNull "c", .group .or []], .notGroup [], .inList "Id" []]

theorem build_first_fault_faultyCalls :
    build .and faultyCalls = .error (.emptyGroup .or) := by
  have hbefore : ∀ earlier ∈ [Call.equals "id" (.long 1), .isNull "c"],
      ∀ e', ¬earlier.FaultyBy e' := by
    simp only [← Call.check_eq_error_iff, List.forall_mem_cons]
    exact ⟨nofun, nofun, List.forall_mem_nil _⟩
  exact ((build_first_fault .and faultyCalls).1 _).2
    ⟨_, .group .or [], _, rfl, hbefore, .emptyGroup .group⟩

end SearchArgument

end ColumnScan
