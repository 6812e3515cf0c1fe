import Mathlib.Data.List.Forall2

/-!
# Results of steps that may fail

How a chain of steps, each of which gives a value or an error, is taken apart: the chain gives a
value exactly when every step does. Proofs about checked functions peel one step at a time with
these equivalences and never look at how errors are passed on. What can be wrong is followed the same
way: a chain fails for reasons of some sort if every step does, which `FailsBy` says, and two chains
fail for the same reasons if their steps do, which `FailAlike` says. Whether a chain fails at all is its
`status`.
-/

namespace ColumnScan

variable {ε ε' α β γ : Type}

theorem bind_eq_ok_iff {x : Except ε α} {f : α → Except ε β} {b : β} :
    (x >>= f) = .ok b ↔ ∃ a, x = .ok a ∧ f a = .ok b := by
  cases x with
  | error e =>
      constructor
      · intro h; cases h
      · rintro ⟨a, h, _⟩; cases h
  | ok a =>
      constructor
      · intro h; exact ⟨a, rfl, h⟩
      · rintro ⟨a', h, hb⟩; cases h; exact hb

theorem bind_eq_error_iff {x : Except ε α} {f : α → Except ε β} {e : ε} :
    (x >>= f) = .error e ↔ x = .error e ∨ ∃ a, x = .ok a ∧ f a = .error e := by
  cases x with
  | error e' =>
      refine ⟨fun h => .inl (by cases h; rfl), ?_⟩
      rintro (h | ⟨a, h, _⟩)
      · cases h; rfl
      · cases h
  | ok a =>
      refine ⟨fun h => .inr ⟨a, rfl, h⟩, ?_⟩
      rintro (h | ⟨a', h, he⟩)
      · cases h
      · cases h; exact he

/-- A step that only checks something passes nothing on. -/
theorem andThen_eq_ok_iff {x : Except ε Unit} {f : Unit → Except ε β} {b : β} :
    (x >>= f) = .ok b ↔ x = .ok () ∧ f () = .ok b := by
  rw [bind_eq_ok_iff]
  exact ⟨fun ⟨_, hx, hb⟩ => ⟨hx, hb⟩, fun ⟨hx, hb⟩ => ⟨(), hx, hb⟩⟩

theorem pure_eq_ok_iff {a b : α} : (pure a : Except ε α) = .ok b ↔ a = b :=
  ⟨fun h => by cases h; rfl, fun h => by rw [h]; rfl⟩

theorem map_eq_ok_iff {x : Except ε α} {f : α → β} {b : β} :
    x.map f = .ok b ↔ ∃ a, x = .ok a ∧ f a = b := by
  cases x <;> simp [Except.map]

theorem mapError_eq_ok_iff {x : Except ε α} {f : ε → ε'} {a : α} :
    x.mapError f = .ok a ↔ x = .ok a := by
  cases x <;> simp [Except.mapError]

/-! ## Whether a step fails -/

/-- What comes of a step, whatever value it gives. -/
def status (x : Except ε α) : Except ε Unit := x.map fun _ => ()

theorem status_bind_of_ok {x : Except ε α} {f : α → Except ε β} {y : Except ε Unit}
    (h : ∀ a, x = .ok a → status (f a) = y) : status (x >>= f) = status x >>= fun _ => y := by
  cases x with
  | error e => rfl
  | ok a => exact h a rfl

theorem status_bind {x : Except ε α} {f : α → Except ε β} {y : Except ε Unit}
    (h : ∀ a, status (f a) = y) : status (x >>= f) = status x >>= fun _ => y :=
  status_bind_of_ok fun a _ => h a

/-- What a value is made into makes no difference. -/
theorem status_bind_pure (x : Except ε α) (f : α → β) :
    status (x >>= fun a => pure (f a)) = status x := by
  cases x <;> rfl

theorem status_map (x : Except ε α) (f : α → β) : status (x.map f) = status x := by
  cases x <;> rfl

theorem status_unit (x : Except ε Unit) : status x = x := by
  cases x <;> rfl

theorem status_eq_ok_iff {x : Except ε α} : status x = .ok () ↔ ∃ a, x = .ok a := by
  cases x <;> simp [status, Except.map]

theorem status_eq_error_iff {x : Except ε α} {e : ε} : status x = .error e ↔ x = .error e := by
  cases x <;> simp [status, Except.map]

/-- What comes of two steps is the same if they fail for the same reasons. -/
theorem status_eq_status_iff {x : Except ε α} {y : Except ε β} :
    status x = status y ↔ ∀ e, x = .error e ↔ y = .error e := by
  constructor
  · intro h e
    rw [← status_eq_error_iff, h, status_eq_error_iff]
  · intro h
    cases x with
    | error e => exact (status_eq_error_iff.2 ((h e).1 rfl)).symm
    | ok a =>
      cases y with
      | error e => exact absurd ((h e).2 rfl) nofun
      | ok b => rfl

/-! ## Item by item -/

/-- Steps that are taken for every item give values exactly when each of them does. -/
theorem mapM_eq_ok_iff {f : α → Except ε β} {as : List α} {bs : List β} :
    as.mapM f = .ok bs ↔ List.Forall₂ (fun a b => f a = .ok b) as bs := by
  induction as generalizing bs with
  | nil =>
      rw [List.mapM_nil, pure_eq_ok_iff, List.forall₂_nil_left_iff]
      exact eq_comm
  | cons a as ih =>
      rw [List.mapM_cons, bind_eq_ok_iff]
      constructor
      · rintro ⟨b, hb, h⟩
        obtain ⟨rest, hrest, h⟩ := bind_eq_ok_iff.1 h
        obtain rfl := pure_eq_ok_iff.1 h
        exact .cons hb (ih.1 hrest)
      · intro h
        cases h with
        | cons hb hrest => exact ⟨_, hb, bind_eq_ok_iff.2 ⟨_, ih.2 hrest, rfl⟩⟩

/-- Steps that do the same for every item do the same for all of them, failing at the same item. -/
theorem mapM_congr {f g : α → Except ε β} {as : List α} (h : ∀ a ∈ as, f a = g a) :
    as.mapM f = as.mapM g := by
  induction as with
  | nil => rfl
  | cons a as ih =>
    obtain ⟨hhead, hrest⟩ := List.forall_mem_cons.1 h
    rw [List.mapM_cons, List.mapM_cons, hhead, ih hrest]

theorem forM_singleton (f : α → Except ε Unit) (a : α) : forM [a] f = f a := by
  rw [List.forM_cons, List.forM_nil, bind_pure_unit]

/-- Checks that are made item by item fail at the first item whose check fails. -/
theorem forM_eq_error_iff {f : α → Except ε Unit} {as : List α} {e : ε} :
    forM as f = .error e ↔ ∃ before bad after, as = before ++ bad :: after ∧
      (∀ a ∈ before, f a = .ok ()) ∧ f bad = .error e := by
  induction as with
  | nil =>
    refine ⟨nofun, ?_⟩
    rintro ⟨before, bad, after, hsplit, -⟩
    exact absurd hsplit.symm (List.append_ne_nil_of_right_ne_nil _ (List.cons_ne_nil _ _))
  | cons a as ih =>
    rw [List.forM_cons]
    cases ha : f a with
    | error e' =>
      constructor
      · intro h
        cases h
        exact ⟨[], a, as, rfl, List.forall_mem_nil _, ha⟩
      · rintro ⟨before, bad, after, hsplit, hbefore, hbad⟩
        cases before with
        | nil =>
          cases hsplit
          rw [ha] at hbad
          exact hbad
        | cons first before =>
          cases hsplit
          exact absurd (ha.symm.trans (hbefore _ List.mem_cons_self)) nofun
    | ok =>
      -- An item that passes its check takes its place among those before the bad one.
      refine Iff.trans ih ⟨?_, ?_⟩
      · rintro ⟨before, bad, after, rfl, hbefore, hbad⟩
        exact ⟨a :: before, bad, after, rfl, List.forall_mem_cons.2 ⟨ha, hbefore⟩, hbad⟩
      · rintro ⟨before, bad, after, hsplit, hbefore, hbad⟩
        cases before with
        | nil =>
          cases hsplit
          exact absurd (ha.symm.trans hbad) nofun
        | cons first before =>
          cases hsplit
          exact ⟨before, bad, after, rfl, (List.forall_mem_cons.1 hbefore).2, hbad⟩

/-- Checks that are made item by item fail if the check of some item fails. -/
theorem exists_forM_eq_error_iff {f : α → Except ε Unit} {as : List α} :
    (∃ e, forM as f = .error e) ↔ ∃ a ∈ as, ∃ e, f a = .error e := by
  induction as with
  | nil => exact iff_of_false nofun nofun
  | cons a as ih =>
    rw [List.forM_cons, List.exists_mem_cons_iff]
    cases ha : f a with
    | error e => exact iff_of_true ⟨e, rfl⟩ (.inl ⟨e, rfl⟩)
    | ok => exact ih.trans (or_iff_right nofun).symm

/-- If the check of an item fails for what is wrong with the item, then the checks of all items fail
for what is wrong with the first one that is wrong. -/
theorem forM_eq_error_iff_first {f : α → Except ε Unit} {R : α → ε → Prop}
    (hf : ∀ a e, f a = .error e ↔ R a e) {as : List α} {e : ε} :
    forM as f = .error e ↔ ∃ before bad after, as = before ++ bad :: after ∧
      (∀ a ∈ before, ∀ e', ¬R a e') ∧ R bad e := by
  have hok (a : α) : f a = .ok () ↔ ∀ e', ¬R a e' := by
    simp only [← hf]
    cases f a <;> simp
  simp only [forM_eq_error_iff, hok, hf]

/-- If it does not matter to a step what was gathered before, then gathering fails as the steps do that
are taken one after another. -/
theorem status_foldlM {f : β → α → Except ε β} {g : α → Except ε Unit}
    (h : ∀ b a, status (f b a) = g a) (as : List α) (b : β) :
    status (as.foldlM f b) = forM as g := by
  induction as generalizing b with
  | nil => rfl
  | cons a as ih =>
    rw [List.foldlM_cons, List.forM_cons, ← h b a]
    exact status_bind ih

/-- If every step that gives a value gives a related one for the other item, so does the whole. -/
theorem exists_mapM_of_forall₂ {δ : Type} {f : α → Except ε β} {g : γ → Except ε δ}
    {S : β → δ → Prop} {as : List α} {bs : List γ} {xs : List β}
    (h : List.Forall₂ (fun a b => ∀ x, f a = .ok x → ∃ y, g b = .ok y ∧ S x y) as bs)
    (hxs : as.mapM f = .ok xs) : ∃ ys, bs.mapM g = .ok ys ∧ List.Forall₂ S xs ys := by
  simp only [mapM_eq_ok_iff] at hxs ⊢
  induction h generalizing xs with
  | nil =>
    cases hxs
    exact ⟨[], .nil, .nil⟩
  | cons hhead _ ih =>
    cases hxs with
    | cons hx hrest =>
      obtain ⟨y, hy, hxy⟩ := hhead _ hx
      obtain ⟨ys, hys, hxys⟩ := ih hrest
      exact ⟨y :: ys, .cons hy hys, .cons hxy hxys⟩

/-- Two lists that agree item by item still do when each item is given its converter. -/
theorem forall₂_zip_of_forall₂ {R : β → γ → Prop} {S : α × β → α × γ → Prop} {cs : List α}
    {as : List β} {bs : List γ} (h : List.Forall₂ R as bs)
    (hS : ∀ c ∈ cs, ∀ a b, R a b → S (c, a) (c, b)) :
    List.Forall₂ S (cs.zip as) (cs.zip bs) := by
  induction h generalizing cs with
  | nil =>
    rw [List.zip_nil_right, List.zip_nil_right]
    exact .nil
  | cons hhead _ ih =>
    cases cs with
    | nil => exact .nil
    | cons c cs =>
      obtain ⟨hc, hcs⟩ := List.forall_mem_cons.1 hS
      exact .cons (hc _ _ hhead) (ih hcs)

/-- Two lists of converters that go with one another still do when each is given an item. -/
theorem forall₂_zip_left {R : α → β → Prop} {S : α × γ → β × γ → Prop} {as : List α} {bs : List β}
    (h : List.Forall₂ R as bs) (hS : ∀ a b, R a b → ∀ c, S (a, c) (b, c)) (cs : List γ) :
    List.Forall₂ S (as.zip cs) (bs.zip cs) := by
  induction h generalizing cs with
  | nil => exact .nil
  | cons hhead _ ih =>
    cases cs with
    | nil => exact .nil
    | cons c cs => exact .cons (hS _ _ hhead c) (ih cs)

/-- The third list that goes with two others may change places with the second. -/
theorem forall₂_zip_swap {R : α → β → γ → Prop} {cs : List α} {as : List β} {bs : List γ}
    (hsize : as.length = cs.length) (h : List.Forall₂ (fun p b => R p.1 p.2 b) (cs.zip as) bs) :
    List.Forall₂ (fun p a => R p.1 a p.2) (cs.zip bs) as := by
  induction cs generalizing as bs with
  | nil =>
      obtain rfl := List.length_eq_zero_iff.1 hsize
      exact .nil
  | cons c cs ih =>
      cases as with
      | nil => cases hsize
      | cons a as =>
          rw [List.zip_cons_cons] at h
          cases h with
          | cons hhead hrest => exact .cons hhead (ih (Nat.succ.inj hsize) hrest)

/-- A list that goes with a second one goes with whatever that goes with. -/
theorem forall₂_trans {R : α → β → Prop} {S : β → γ → Prop} {T : α → γ → Prop} {as : List α}
    {bs : List β} {cs : List γ} (h : List.Forall₂ R as bs) (h' : List.Forall₂ S bs cs)
    (hT : ∀ a b c, R a b → S b c → T a c) : List.Forall₂ T as cs := by
  induction h generalizing cs with
  | nil =>
    cases h'
    exact .nil
  | cons hhead _ ih =>
    cases h' with
    | cons hhead' hrest' => exact .cons (hT _ _ _ hhead hhead') (ih hrest')

/-- Lists of one size have items at the same positions. -/
theorem exists_getElem?_zip {as : List α} {bs : List β} (size : as.length = bs.length) {i : Nat}
    {b : β} (hb : bs[i]? = some b) : ∃ a, as[i]? = some a ∧ (a, b) ∈ as.zip bs := by
  obtain ⟨hi, _⟩ := List.getElem?_eq_some_iff.1 hb
  have ha : as[i]? = some as[i] := List.getElem?_eq_getElem (size ▸ hi)
  exact ⟨as[i], ha, List.mem_of_getElem? (List.getElem?_zip_eq_some.2 ⟨ha, hb⟩)⟩

/-- Every converter of a list of parts belongs to one of the parts. -/
theorem exists_mem_zip {as : List α} {cs : List β} (size : as.length = cs.length) {c : β}
    (hc : c ∈ cs) : ∃ a ∈ as, (a, c) ∈ as.zip cs := by
  rw [← List.map_snd_zip (Nat.le_of_eq size.symm)] at hc
  obtain ⟨⟨a, c⟩, hp, rfl⟩ := List.mem_map.1 hc
  exact ⟨a, (List.of_mem_zip hp).1, hp⟩

/-- What stands at a position goes with what stands there in the other list. -/
theorem exists_getElem?_of_forall₂ {R : α → β → Prop} {as : List α} {bs : List β}
    (h : List.Forall₂ R as bs) {i : Nat} {a : α} (ha : as[i]? = some a) :
    ∃ b, bs[i]? = some b ∧ R a b := by
  obtain ⟨size, hget⟩ := List.forall₂_iff_get.1 h
  obtain ⟨hi, rfl⟩ := List.getElem?_eq_some_iff.1 ha
  exact ⟨bs[i], List.getElem?_eq_getElem (size ▸ hi), hget i hi (size ▸ hi)⟩

theorem exists_forall₂ {R : α → β → Prop} {as : List α} (h : ∀ a ∈ as, ∃ b, R a b) :
    ∃ bs, List.Forall₂ R as bs := by
  induction as with
  | nil => exact ⟨[], .nil⟩
  | cons a as ih =>
      obtain ⟨⟨b, hb⟩, hrest⟩ := List.forall_mem_cons.1 h
      obtain ⟨bs, hbs⟩ := ih hrest
      exact ⟨b :: bs, .cons hb hbs⟩

/-- What there is for every item of a list, told its position, there is for all of them. -/
theorem exists_getElem?_of_forall {R : Nat → α → β → Prop} {as : List α}
    (h : ∀ i a, as[i]? = some a → ∃ b, R i a b) :
    ∃ bs : List β, bs.length = as.length ∧
      ∀ i a b, as[i]? = some a → bs[i]? = some b → R i a b := by
  induction as generalizing R with
  | nil => exact ⟨[], rfl, nofun⟩
  | cons a as ih =>
    obtain ⟨b, hb⟩ := h 0 a rfl
    obtain ⟨bs, hsize, hbs⟩ := ih (R := fun i => R (i + 1)) fun i a ha => h (i + 1) a ha
    refine ⟨b :: bs, congrArg (· + 1) hsize, fun i a' b' ha' hb' => ?_⟩
    cases i with
    | zero =>
      cases ha'
      cases hb'
      exact hb
    | succ i => exact hbs i a' b' ha' hb'

/-- A list that goes with another one as its image is its image. -/
theorem map_eq_of_forall₂ {R : α → β → Prop} {f : α → β} {as : List α} {bs : List β}
    (h : List.Forall₂ R as bs) (image : ∀ a ∈ as, ∀ b, R a b → f a = b) : as.map f = bs := by
  induction h with
  | nil => rfl
  | cons hhead _ ih =>
    obtain ⟨hfirst, hrest⟩ := List.forall_mem_cons.1 image
    rw [List.map_cons, hfirst _ hhead, ih hrest]

theorem eq_of_forall₂ {R : α → α → Prop} {as bs : List α} (h : List.Forall₂ R as bs)
    (same : ∀ a ∈ as, ∀ b, R a b → a = b) : as = bs :=
  (List.map_id as).symm.trans (map_eq_of_forall₂ h same)

theorem exists_mem_of_forall₂ {R : α → β → Prop} {as : List α} {bs : List β}
    (h : List.Forall₂ R as bs) : ∀ a ∈ as, ∃ b ∈ bs, R a b := by
  induction h with
  | nil => nofun
  | cons hhead _ ih =>
      rw [List.forall_mem_cons]
      refine ⟨⟨_, List.mem_cons_self, hhead⟩, ?_⟩
      intro a ha
      obtain ⟨b, hb, hab⟩ := ih a ha
      exact ⟨b, List.mem_cons_of_mem _ hb, hab⟩

theorem map_eq_map_of_forall₂ {f : α → γ} {g : β → γ} {as : List α} {bs : List β}
    (h : List.Forall₂ (fun a b => f a = g b) as bs) : as.map f = bs.map g := by
  induction h with
  | nil => rfl
  | cons hhead _ ih => rw [List.map_cons, List.map_cons, hhead, ih]

/-- What holds between the items of a list holds between what they go with. -/
theorem pairwise_of_forall₂ {R : α → β → Prop} {S : α → α → Prop} {T : β → β → Prop}
    {as : List α} {bs : List β} (h : List.Forall₂ R as bs)
    (hST : ∀ a a' b b', R a b → R a' b' → T b b' → S a a') (hbs : bs.Pairwise T) :
    as.Pairwise S := by
  induction h with
  | nil => exact .nil
  | cons hhead hrest ih =>
      obtain ⟨hfirst, hothers⟩ := List.pairwise_cons.1 hbs
      refine List.pairwise_cons.2 ⟨?_, ih hothers⟩
      intro a ha
      obtain ⟨b, hb, hab⟩ := exists_mem_of_forall₂ hrest a ha
      exact hST _ _ _ _ hhead hab (hfirst b hb)

/-! ## Steps that fail alike -/

section

variable {δ : Type} {R : α → β → Prop} {S : γ → δ → Prop}

/-- Both steps fail for the same reason, or both give values, which are related. -/
inductive FailAlike (R : α → β → Prop) : Except ε α → Except ε β → Prop where
  | error (e : ε) : FailAlike R (.error e) (.error e)
  | ok {a : α} {b : β} (related : R a b) : FailAlike R (.ok a) (.ok b)

namespace FailAlike

variable {x : Except ε α} {y : Except ε β}

theorem eq_error_iff (h : FailAlike R x y) {e : ε} : x = .error e ↔ y = .error e := by
  cases h with
  | error => rw [Except.error.injEq, Except.error.injEq]
  | ok => exact iff_of_false nofun nofun

theorem eq_map {f : α → β} (h : FailAlike R x y) (hR : ∀ a b, R a b → b = f a) : y = x.map f := by
  cases h with
  | error => rfl
  | ok related => exact congrArg Except.ok (hR _ _ related)

theorem bind {f : α → Except ε γ} {g : β → Except ε δ} (h : FailAlike R x y)
    (hfg : ∀ a b, R a b → FailAlike S (f a) (g b)) : FailAlike S (x >>= f) (y >>= g) := by
  cases h with
  | error e => exact .error e
  | ok related => exact hfg _ _ related

theorem map {f : α → γ} {g : β → δ} (h : FailAlike R x y) (hfg : ∀ a b, R a b → S (f a) (g b)) :
    FailAlike S (x.map f) (y.map g) := by
  cases h with
  | error e => exact .error e
  | ok related => exact .ok (hfg _ _ related)

end FailAlike

theorem failAlike_mapM {f : α → Except ε γ} {g : β → Except ε δ} {as : List α} {bs : List β}
    (h : List.Forall₂ (fun a b => FailAlike S (f a) (g b)) as bs) :
    FailAlike (List.Forall₂ S) (as.mapM f) (bs.mapM g) := by
  induction h with
  | nil => exact .ok .nil
  | cons hhead _ ih =>
    rw [List.mapM_cons, List.mapM_cons]
    exact hhead.bind fun _ _ hfirst => ih.bind fun _ _ hrest => .ok (.cons hfirst hrest)

end

/-! ## Failing for reasons of one sort -/

section

variable {P : ε → Prop}

/-- If it fails, then for a reason of this sort. -/
def FailsBy (P : ε → Prop) (x : Except ε α) : Prop := ∀ e, x = .error e → P e

theorem failsBy_ok (a : α) : FailsBy P (.ok a) := nofun

theorem failsBy_error {e : ε} (h : P e) : FailsBy P (.error e : Except ε α) := by
  intro e' he
  cases he
  exact h

/-- What the first step gives is known to the second. -/
theorem FailsBy.bind_of_ok {x : Except ε α} {f : α → Except ε β} (hx : FailsBy P x)
    (hf : ∀ a, x = .ok a → FailsBy P (f a)) : FailsBy P (x >>= f) := by
  cases x with
  | error e => exact failsBy_error (hx e rfl)
  | ok a => exact hf a rfl

theorem FailsBy.bind {x : Except ε α} {f : α → Except ε β} (hx : FailsBy P x)
    (hf : ∀ a, FailsBy P (f a)) : FailsBy P (x >>= f) :=
  hx.bind_of_ok fun a _ => hf a

theorem FailsBy.map {x : Except ε α} (f : α → β) (hx : FailsBy P x) : FailsBy P (x.map f) := by
  cases x with
  | error e => exact failsBy_error (hx e rfl)
  | ok a => exact failsBy_ok _

theorem FailsBy.mapError {x : Except ε' α} (f : ε' → ε) (hx : FailsBy (fun e => P (f e)) x) :
    FailsBy P (x.mapError f) := by
  cases x with
  | error e => exact failsBy_error (hx e rfl)
  | ok a => exact failsBy_ok _

theorem failsBy_mapM {f : β → Except ε γ} {bs : List β} (hf : ∀ b ∈ bs, FailsBy P (f b)) :
    FailsBy P (bs.mapM f) := by
  induction bs with
  | nil => exact failsBy_ok []
  | cons b bs ih =>
    obtain ⟨hhead, hrest⟩ := List.forall_mem_cons.1 hf
    rw [List.mapM_cons]
    exact hhead.bind fun _ => (ih hrest).bind fun _ => failsBy_ok _

theorem failsBy_foldlM {f : β → γ → Except ε β} (hf : ∀ b c, FailsBy P (f b c)) (cs : List γ) (b : β) :
    FailsBy P (cs.foldlM f b) := by
  induction cs generalizing b with
  | nil => exact failsBy_ok b
  | cons c cs ih =>
    rw [List.foldlM_cons]
    exact (hf b c).bind ih

end

end ColumnScan
