import Mathlib.Order.Basic

/-!
# Laws of a comparison, one value at a time

Values are compared by recursion, so the laws of their order are proved by recursion too, and at a
value they may only be used for its parts. `LawfulAt cmp a` is what they say of `a` as the first
value that is compared. Main statements: `LawfulAt.list`, the laws at the items are the laws at a
list; `LawfulAt.ofRank`, values of different ranks need no proof; `transCmp_of_lawfulAt`.
-/

namespace ColumnScan

/-- What the comparisons of a first value with a second and of the second with a third say of that
of the first with the third. -/
structure Chained (x y z : Ordering) : Prop where
  of_eq_left : x = .eq → z = y
  of_eq_right : y = .eq → z = x
  of_same : x = y → z = x

/-- The order by a first criterion, then by a second, is chained if both orders are. -/
theorem Chained.then {x y z x' y' z' : Ordering} (h : Chained x y z) (h' : Chained x' y' z') :
    Chained (x.then x') (y.then y') (z.then z') := by
  rcases h with ⟨hl, hr, hs⟩
  rcases h' with ⟨hl', hr', hs'⟩
  cases x
  case eq =>
    obtain rfl := hl rfl
    cases z
    case eq => exact ⟨hl', hr', hs'⟩
    all_goals exact ⟨fun _ => rfl, nofun, fun _ => by simp_all⟩
  all_goals
    cases y
    case eq =>
      obtain rfl := hr rfl
      exact ⟨nofun, fun _ => rfl, fun _ => rfl⟩
    all_goals
      refine ⟨nofun, nofun, fun hxy => ?_⟩
      rw [hs hxy]
      rfl

section

variable {α β : Type} {cmp : α → α → Ordering} {cmp' : β → β → Ordering}

theorem chained_of_transCmp (cmp : α → α → Ordering) [Std.TransCmp cmp] (a b c : α) :
    Chained (cmp a b) (cmp b c) (cmp a c) := by
  refine ⟨Std.TransCmp.congr_left, fun h => (Std.TransCmp.congr_right h).symm, fun h => ?_⟩
  cases hab : cmp a b with
  | lt => exact Std.TransCmp.lt_trans hab (h ▸ hab)
  | eq => exact Std.TransCmp.eq_trans hab (h ▸ hab)
  | gt => exact Std.TransCmp.gt_trans hab (h ▸ hab)

/-- The laws of an order with `a` as the first value compared. -/
structure LawfulAt (cmp : α → α → Ordering) (a : α) : Prop where
  swap : ∀ b, cmp b a = (cmp a b).swap
  chained : ∀ b c, Chained (cmp a b) (cmp b c) (cmp a c)

theorem lawfulAt_of_transCmp (cmp : α → α → Ordering) [Std.TransCmp cmp] (a : α) :
    LawfulAt cmp a :=
  ⟨fun _ => Std.OrientedCmp.eq_swap, chained_of_transCmp cmp a⟩

theorem transCmp_of_lawfulAt (h : ∀ a, LawfulAt cmp a) : Std.TransCmp cmp where
  eq_swap {a b} := (h b).swap a
  isLE_trans {a b c} hab hbc := by
    obtain ⟨hl, hr, hs⟩ := (h a).chained b c
    cases hx : cmp a b with
    | gt => rw [hx] at hab; cases hab
    | eq => rw [hl hx]; exact hbc
    | lt =>
      cases hy : cmp b c with
      | gt => rw [hy] at hbc; cases hbc
      | eq => rw [hr hy]; exact hab
      | lt => rw [hs (hx.trans hy.symm)]; exact hab

/-- Pairs are compared by the first part, then by the second. -/
theorem LawfulAt.pair {a : α} {b : β} (ha : LawfulAt cmp a) (hb : LawfulAt cmp' b) :
    LawfulAt (fun p q : α × β => (cmp p.1 q.1).then (cmp' p.2 q.2)) (a, b) where
  swap q := by
    dsimp only
    rw [ha.swap, hb.swap, Ordering.swap_then]
  chained q r := (ha.chained q.1 r.1).then (hb.chained q.2 r.2)

/-- A list is compared item by item, so the laws at its items are enough. -/
theorem LawfulAt.list {as : List α} (h : ∀ a ∈ as, LawfulAt cmp a) :
    LawfulAt (List.compareLex cmp) as := by
  induction as with
  | nil =>
    refine ⟨fun bs => ?_, fun bs cs => ?_⟩
    · cases bs <;> rfl
    · cases bs <;> cases cs <;> constructor <;>
        simp [List.compareLex_nil_nil, List.compareLex_nil_cons, List.compareLex_cons_nil]
  | cons a as ih =>
    have ha := h a List.mem_cons_self
    have has := ih fun b hb => h b (List.mem_cons_of_mem a hb)
    refine ⟨fun bs => ?_, fun bs cs => ?_⟩
    · cases bs with
      | nil => rfl
      | cons b bs =>
        rw [List.compareLex_cons_cons, List.compareLex_cons_cons, ha.swap, has.swap,
          Ordering.swap_then]
    · cases bs with
      | nil =>
        cases cs <;> constructor <;>
          simp [List.compareLex_nil_nil, List.compareLex_nil_cons, List.compareLex_cons_nil]
      | cons b bs =>
        cases cs with
        | nil => exact ⟨fun _ => rfl, nofun, fun h => h.symm⟩
        | cons c cs =>
          simp only [List.compareLex_cons_cons]
          exact (ha.chained b c).then (has.chained bs cs)

/-- Values of different ranks are ordered by their ranks, so only those of one rank matter. -/
theorem LawfulAt.ofRank {rank : α → Nat} {a : α}
    (hrank : ∀ a b, rank a ≠ rank b → cmp a b = compare (rank a) (rank b))
    (swap : ∀ b, rank b = rank a → cmp b a = (cmp a b).swap)
    (chained : ∀ b c, rank b = rank a → rank c = rank a →
      Chained (cmp a b) (cmp b c) (cmp a c)) : LawfulAt cmp a := by
  refine ⟨fun b => ?_, fun b c => ?_⟩
  · by_cases h : rank b = rank a
    · exact swap b h
    · rw [hrank b a h, hrank a b (Ne.symm h), Nat.compare_swap]
  · -- Which of the ranks are the same decides which comparisons are those of the ranks.
    have hne : ∀ {m n : Nat}, m ≠ n → compare m n ≠ .eq := fun h => mt Nat.compare_eq_eq.1 h
    by_cases hab : rank a = rank b
    · by_cases hbc : rank b = rank c
      · exact chained b c hab.symm (hbc.symm.trans hab.symm)
      · have hac : rank a ≠ rank c := hab ▸ hbc
        have hz : cmp a c = cmp b c := by rw [hrank a c hac, hrank b c hbc, hab]
        have hy : cmp b c ≠ .eq := by rw [hrank b c hbc]; exact hne hbc
        exact ⟨fun _ => hz, fun h => absurd h hy, fun h => hz.trans h.symm⟩
    · have hx : cmp a b ≠ .eq := by rw [hrank a b hab]; exact hne hab
      by_cases hbc : rank b = rank c
      · have hz : cmp a c = cmp a b := by
          rw [hrank a c (hbc ▸ hab), hrank a b hab, hbc]
        exact ⟨fun h => absurd h hx, fun _ => hz, fun _ => hz⟩
      · have hy : cmp b c ≠ .eq := by rw [hrank b c hbc]; exact hne hbc
        refine ⟨fun h => absurd h hx, fun h => absurd h hy, fun h => ?_⟩
        by_cases hac : rank a = rank c
        · -- There and back again: the two comparisons cannot be the same.
          have hback : cmp b c = (cmp a b).swap := by
            rw [hrank b c hbc, hrank a b hab, ← hac, Nat.compare_swap]
          rw [hback] at h
          cases ho : cmp a b <;> rw [ho] at h hx
          · cases h
          · exact absurd rfl hx
          · cases h
        · have hranks := (chained_of_transCmp compare (rank a) (rank b) (rank c)).of_same
          rw [hrank a b hab, hrank b c hbc] at h
          rw [hrank a c hac, hrank a b hab, hranks h]

end

end ColumnScan
