import ColumnScan.Proofs.Companions
import ColumnScan.Proofs.Value.Comparison
import ColumnScan.Value.Fingerprint

/-!
# Keys, one value at a time

The keys of a table in order need a total order, those of a hash table fingerprints that tell apart
what the order does. Both are proved by recursion on the values. Fingerprints of parts are written one
after the other with nothing between them, so what is proved of a value is more: its fingerprint ends
where it does, whatever follows. `KeyAt cmp marks a` says all this of one value and is carried through
pairs, lists and kinds. Main statements: `KeyAt.list`, `KeyAt.entries` and `ByKind.keyAt`.
-/

namespace ColumnScan

section

variable {α β : Type} {cmp : α → α → Ordering} {cmp' : β → β → Ordering} {marks : α → List Mark}
  {marks' : β → List Mark}

/-- The marks of `a`, whatever follows them, are those of exactly the values that are the same. -/
def CodesAt (cmp : α → α → Ordering) (marks : α → List Mark) (a : α) : Prop :=
  ∀ b r s, marks a ++ r = marks b ++ s ↔ cmp a b = .eq ∧ r = s

/-- Where all values have as many marks, nothing has to be said of what follows. -/
theorem CodesAt.ofLength {a : α} (hlength : ∀ b, (marks a).length = (marks b).length)
    (h : ∀ b, marks a = marks b ↔ cmp a b = .eq) : CodesAt cmp marks a := by
  intro b r s
  rw [← h b]
  constructor
  · exact fun heq => List.append_inj heq (hlength b)
  · rintro ⟨heq, rfl⟩
    rw [heq]

/-- A list tells its length, so the marks of its items are taken apart one item after the other. -/
theorem CodesAt.list {as : List α} (h : ∀ a ∈ as, CodesAt cmp marks a) :
    CodesAt (List.compareLex cmp) (fun bs => .number bs.length :: bs.flatMap marks) as := by
  have hitems : ∀ bs r s, as.length = bs.length →
      (as.flatMap marks ++ r = bs.flatMap marks ++ s ↔
        List.compareLex cmp as bs = .eq ∧ r = s) := by
    induction as with
    | nil =>
      intro bs r s hlength
      obtain rfl := List.length_eq_zero_iff.1 hlength.symm
      simp [List.compareLex_nil_nil]
    | cons a as ih =>
      intro bs r s hlength
      obtain ⟨ha, has⟩ := List.forall_mem_cons.1 h
      cases bs with
      | nil => cases hlength
      | cons b bs =>
        rw [List.flatMap_cons, List.flatMap_cons, List.append_assoc, List.append_assoc, ha,
          ih has bs r s (Nat.succ.inj hlength), List.compareLex_cons_cons, Ordering.then_eq_eq,
          and_assoc]
  intro bs r s
  by_cases hlength : as.length = bs.length
  · rw [List.cons_append, List.cons_append, hlength, List.cons_eq_cons, and_iff_right rfl,
      hitems bs r s hlength]
  · -- Lists of other lengths differ in their first mark, and in the order.
    refine iff_of_false ?_ ?_
    · intro heq
      injection heq with hhead _
      exact hlength (Int.natCast_inj.1 (Mark.number.inj hhead))
    · rintro ⟨heq, _⟩
      exact hlength (compareLex_eq_eq_iff.1 heq).length_eq

/-- What makes `a` a key, as the first value compared: the laws of the order, and marks that tell apart
what the order does. -/
structure KeyAt (cmp : α → α → Ordering) (marks : α → List Mark) (a : α) : Prop where
  lawful : LawfulAt cmp a
  codes : CodesAt cmp marks a

namespace KeyAt

theorem marks_eq_iff {a : α} (h : KeyAt cmp marks a) (b : α) : marks a = marks b ↔ cmp a b = .eq := by
  have hnil := h.codes b [] []
  rwa [List.append_nil, List.append_nil, and_iff_left rfl] at hnil

theorem ofLength [Std.TransCmp cmp] {a : α} (hlength : ∀ b, (marks a).length = (marks b).length)
    (h : ∀ b, marks a = marks b ↔ cmp a b = .eq) : KeyAt cmp marks a :=
  ⟨lawfulAt_of_transCmp cmp a, .ofLength hlength h⟩

/-- What is told by one number, one that differs wherever the order does. -/
theorem ofNumber [Std.TransCmp cmp] (f : α → Int) {a : α} (h : ∀ b, f a = f b ↔ cmp a b = .eq) :
    KeyAt cmp (fun b => [.number (f b)]) a :=
  .ofLength (fun _ => rfl) fun b => by rw [← h b, List.singleton_inj, Mark.number.injEq]

/-- What is ordered by a number and told by it. -/
theorem ofCompareOn (f : α → Int) (a : α) : KeyAt (compareOn f) (fun b => [.number (f b)]) a :=
  .ofNumber f fun _ => Std.LawfulEqOrd.compare_eq_iff_eq.symm

theorem ofNat (f : α → Nat) (a : α) : KeyAt (compareOn f) (fun b => [.number (f b)]) a :=
  .ofNumber (fun b => f b) fun _ => Int.natCast_inj.trans Std.LawfulEqOrd.compare_eq_iff_eq.symm

/-- Where there is only one value, no mark is needed. -/
theorem unit (a : Unit) : KeyAt (fun _ _ => .eq) (fun _ => []) a where
  lawful := ⟨fun _ => rfl, fun _ _ => ⟨fun _ => rfl, fun _ => rfl, fun _ => rfl⟩⟩
  codes := .ofLength (fun _ => rfl) fun _ => iff_of_true rfl rfl

/-- A mark in front that is always the same changes nothing. -/
theorem cons {a : α} (m : Mark) (h : KeyAt cmp marks a) : KeyAt cmp (fun b => m :: marks b) a where
  lawful := h.lawful
  codes b r s := by
    rw [List.cons_append, List.cons_append, List.cons_eq_cons, and_iff_right rfl, h.codes b r s]

/-- Pairs are ordered by the first part, then by the second, and give the marks of both. -/
theorem pair {a : α} {b : β} (ha : KeyAt cmp marks a) (hb : KeyAt cmp' marks' b) :
    KeyAt (fun p q : α × β => (cmp p.1 q.1).then (cmp' p.2 q.2))
      (fun p => marks p.1 ++ marks' p.2) (a, b) where
  lawful := .pair ha.lawful hb.lawful
  codes q r s := by
    rw [List.append_assoc, List.append_assoc, ha.codes, hb.codes, Ordering.then_eq_eq, and_assoc]

theorem list {as : List α} (h : ∀ a ∈ as, KeyAt cmp marks a) :
    KeyAt (List.compareLex cmp) (fun bs => .number bs.length :: bs.flatMap marks) as :=
  ⟨.list fun a ha => (h a ha).lawful, .list fun a ha => (h a ha).codes⟩

end KeyAt

section

variable {cmpItems : List α → List α → Ordering}
  {cmpEntries : List (α × α) → List (α × α) → Ordering} {marksItems : List α → List Mark}
  {marksEntries : List (α × α) → List Mark}

theorem KeyAt.items (hcmp : Compares cmp cmpItems cmpEntries)
    (hmarks : Gathers marks marksItems marksEntries) {as : List α}
    (h : ∀ a ∈ as, KeyAt cmp marks a) :
    KeyAt cmpItems (fun bs => .number bs.length :: marksItems bs) as := by
  have hitems := KeyAt.list h
  simp only [← hmarks.items_eq] at hitems
  rwa [← funext₂ hcmp.items_eq] at hitems

theorem KeyAt.entries (hcmp : Compares cmp cmpItems cmpEntries)
    (hmarks : Gathers marks marksItems marksEntries) {es : List (α × α)}
    (h : ∀ e ∈ es, KeyAt cmp marks e.1 ∧ KeyAt cmp marks e.2) :
    KeyAt cmpEntries (fun fs => .number fs.length :: marksEntries fs) es := by
  have hentries := KeyAt.list fun e he => (h e he).1.pair (h e he).2
  simp only [← hmarks.entries_eq] at hentries
  rwa [← funext₂ hcmp.entries_eq] at hentries

end

/-! ## Kinds -/

theorem Scalar.rank_bounds (a : Scalar) : 0 < a.rank ∧ a.rank < 10 ∨ a.rank = 12 := by
  cases a <;> simp [rank]

/-- Values of different kinds are ordered by the ranks of their kinds, and the first mark of a value is
the rank of its kind. -/
structure ByKind (rank : α → Nat) (cmp : α → α → Ordering) (marks : α → List Mark) : Prop where
  cmp_of_rank_ne : ∀ a b, rank a ≠ rank b → cmp a b = compare (rank a) (rank b)
  head?_marks : ∀ a, (marks a).head? = some (.number (rank a))

namespace ByKind

variable {rank : α → Nat}

/-- Values that are the same are of one kind. -/
theorem rank_eq (K : ByKind rank cmp marks) {a b : α} (h : cmp a b = .eq) : rank a = rank b := by
  by_contra hne
  rw [K.cmp_of_rank_ne a b hne, Nat.compare_eq_eq] at h
  exact hne h

/-- The values of one kind, made of what `wrap` is given, are keys if what they are made of is one. -/
theorem keyAt (K : ByKind rank cmp marks) (wrap : β → α) {x : β} (h : KeyAt cmp' marks' x)
    (hcmp : ∀ y z, cmp (wrap y) (wrap z) = cmp' y z := by intros; rfl)
    (hmarks : ∀ y, marks (wrap y) = marks' y := by intros; rfl)
    (hkind : ∀ b, rank b = rank (wrap x) → ∃ y, b = wrap y := by
      intro b h
      cases b <;> simp [Scalar.rank, Native.rank, Stored.rank] at h ⊢
      all_goals grind [Scalar.rank_bounds]) : KeyAt cmp marks (wrap x) where
  lawful := by
    refine .ofRank K.cmp_of_rank_ne (fun b hb => ?_) (fun b c hb hc => ?_)
    · obtain ⟨y, rfl⟩ := hkind b hb
      rw [hcmp, hcmp, h.lawful.swap]
    · obtain ⟨y, rfl⟩ := hkind b hb
      obtain ⟨z, rfl⟩ := hkind c hc
      rw [hcmp, hcmp, hcmp]
      exact h.lawful.chained y z
  codes b r s := by
    by_cases hb : rank b = rank (wrap x)
    · obtain ⟨y, rfl⟩ := hkind b hb
      rw [hmarks, hmarks, hcmp, h.codes]
    · -- A value of another kind differs in its first mark, and in the order.
      refine iff_of_false ?_ ?_
      · intro heq
        have hfirst := congrArg List.head? heq
        rw [List.head?_append, List.head?_append, K.head?_marks, K.head?_marks, Option.some_or,
          Option.some_or, Option.some.injEq, Mark.number.injEq] at hfirst
        exact hb (Int.natCast_inj.1 hfirst.symm)
      · rintro ⟨heq, _⟩
        exact hb (K.rank_eq heq).symm

/-- What is the same as a value of one kind is of that kind, and made of the same. -/
theorem exists_of_cmp (K : ByKind rank cmp marks) (wrap : β → α) (x : β) {b : α}
    (h : cmp (wrap x) b = .eq)
    (hkind : ∀ b, rank b = rank (wrap x) → ∃ y, b = wrap y := by
      intro b h
      cases b <;> simp [Scalar.rank, Native.rank, Stored.rank] at h ⊢
      all_goals grind [Scalar.rank_bounds]) : ∃ y, b = wrap y ∧ cmp (wrap x) (wrap y) = .eq := by
  obtain ⟨y, rfl⟩ := hkind b (K.rank_eq h).symm
  exact ⟨y, rfl, h⟩

end ByKind

end

end ColumnScan
