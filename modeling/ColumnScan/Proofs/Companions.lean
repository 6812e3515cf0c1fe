import Mathlib.Data.List.Forall2

/-!
# Companions of a recursion

A recursion on trees that hold lists of trees goes through those lists with companions of its own.
What a companion computes follows from what it does with one item: it gathers what the recursion gives
for the items, or it compares two lists in the lexicographic order. The companions for lists of trees
and for lists of pairs of trees come together, as `Gathers` and as `Compares`.
-/

namespace ColumnScan

variable {α β : Type} {cmp : α → α → Ordering}

/-! ## What is gathered from parts -/

theorem eq_flatMap {f : α → List β} {companion : List α → List β} (as : List α)
    (nil : companion [] = [] := by rfl)
    (cons : ∀ a as, companion (a :: as) = f a ++ companion as := by intros; rfl) :
    companion as = as.flatMap f := by
  induction as with
  | nil => exact nil
  | cons a as ih => rw [cons, List.flatMap_cons, ih]

theorem subset_flatMap_of_mem (f : α → List β) {as : List α} {a : α} (h : a ∈ as) :
    f a ⊆ as.flatMap f :=
  fun _ hb => List.mem_flatMap_of_mem h hb

/-- The companions of `f` gather what it gives for items, and for keys and values. -/
structure Gathers (f : α → List β) (items : List α → List β) (entries : List (α × α) → List β) :
    Prop where
  items_eq : ∀ as, items as = as.flatMap f
  entries_eq : ∀ es, entries es = es.flatMap fun e => f e.1 ++ f e.2

namespace Gathers

variable {f : α → List β} {items : List α → List β} {entries : List (α × α) → List β}

theorem subset_items (h : Gathers f items entries) {as : List α} {a : α} (ha : a ∈ as) :
    f a ⊆ items as := by
  rw [h.items_eq]
  exact subset_flatMap_of_mem f ha

theorem subset_entries (h : Gathers f items entries) {es : List (α × α)} {e : α × α}
    (he : e ∈ es) : f e.1 ⊆ entries es ∧ f e.2 ⊆ entries es := by
  rw [h.entries_eq, ← List.append_subset]
  exact subset_flatMap_of_mem (fun e : α × α => f e.1 ++ f e.2) he

end Gathers

/-! ## How lists of parts are compared -/

/-- A comparison of lists that goes item by item, and puts a list before its continuations, is the
lexicographic one. -/
theorem eq_compareLex {companion : List α → List α → Ordering} (as bs : List α)
    (nil_nil : companion [] [] = .eq := by rfl)
    (nil_cons : ∀ b bs, companion [] (b :: bs) = .lt := by intros; rfl)
    (cons_nil : ∀ a as, companion (a :: as) [] = .gt := by intros; rfl)
    (cons_cons : ∀ a as b bs, companion (a :: as) (b :: bs) = (cmp a b).then (companion as bs) := by
      intros; rfl) :
    companion as bs = List.compareLex cmp as bs := by
  induction as generalizing bs with
  | nil =>
    cases bs with
    | nil => exact nil_nil
    | cons b bs => exact nil_cons b bs
  | cons a as ih =>
    cases bs with
    | nil => exact cons_nil a as
    | cons b bs => rw [cons_cons, List.compareLex_cons_cons, ih]

theorem compareLex_eq_eq_iff {as bs : List α} :
    List.compareLex cmp as bs = .eq ↔ List.Forall₂ (fun a b => cmp a b = .eq) as bs := by
  induction as generalizing bs with
  | nil => cases bs <;> simp [List.compareLex_nil_nil, List.compareLex_nil_cons]
  | cons a as ih =>
    cases bs with
    | nil => simp [List.compareLex_cons_nil]
    | cons b bs => rw [List.compareLex_cons_cons, Ordering.then_eq_eq, ih, List.forall₂_cons]

/-- The companions of `cmp` compare item by item, and entry by entry with the key before the value. -/
structure Compares (cmp : α → α → Ordering) (items : List α → List α → Ordering)
    (entries : List (α × α) → List (α × α) → Ordering) : Prop where
  items_eq : ∀ as bs, items as bs = List.compareLex cmp as bs
  entries_eq : ∀ es fs,
    entries es fs = List.compareLex (fun e f => (cmp e.1 f.1).then (cmp e.2 f.2)) es fs

namespace Compares

variable {items : List α → List α → Ordering} {entries : List (α × α) → List (α × α) → Ordering}

theorem items_eq_eq_iff (h : Compares cmp items entries) {as bs : List α} :
    items as bs = .eq ↔ List.Forall₂ (fun a b => cmp a b = .eq) as bs := by
  rw [h.items_eq, compareLex_eq_eq_iff]

theorem entries_eq_eq_iff (h : Compares cmp items entries) {es fs : List (α × α)} :
    entries es fs = .eq ↔
      List.Forall₂ (fun e f => cmp e.1 f.1 = .eq ∧ cmp e.2 f.2 = .eq) es fs := by
  simp only [h.entries_eq, compareLex_eq_eq_iff, Ordering.then_eq_eq]

end Compares

end ColumnScan
