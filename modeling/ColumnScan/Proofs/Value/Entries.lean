import ColumnScan.Proofs.Outcome
import ColumnScan.Value.Entries
import Mathlib.Data.List.Perm.Basic

/-!
# Entries put in one after the other

Whatever the pairs, the entries made of them ascend strictly. Pairs whose keys are all different are
all there in the end, so entries that are taken apart and put together again, in any order, are what
they were. Main statements: `ascending_ofList`, `ofList_perm` and `exists_ofList_of_forall₂`.
-/

namespace ColumnScan.Entries

variable {κ ν : Type} {cmp : κ → κ → Ordering}

/-- No two entries have the same key. -/
def DistinctKeys (cmp : κ → κ → Ordering) (entries : List (κ × ν)) : Prop :=
  entries.Pairwise fun a b => cmp a.1 b.1 ≠ .eq

theorem Ascending.distinctKeys {entries : List (κ × ν)} (h : Ascending cmp entries) :
    DistinctKeys cmp entries :=
  h.imp fun {a b} hab heq => by rw [hab] at heq; cases heq

/-- Every key was put in as a key and every value as a value. -/
theorem forall_insert {P : κ → Prop} {Q : ν → Prop} {key : κ} {value : ν} (hkey : P key)
    (hvalue : Q value) {entries : List (κ × ν)} (h : ∀ p ∈ entries, P p.1 ∧ Q p.2) :
    ∀ p ∈ insert cmp key value entries, P p.1 ∧ Q p.2 := by
  induction entries with
  | nil =>
    intro p hp
    obtain rfl := List.mem_singleton.1 hp
    exact ⟨hkey, hvalue⟩
  | cons e rest ih =>
    obtain ⟨k, v⟩ := e
    obtain ⟨hhead, hrest⟩ := List.forall_mem_cons.1 h
    rw [insert]
    cases cmp key k with
    | lt => exact List.forall_mem_cons.2 ⟨⟨hkey, hvalue⟩, h⟩
    | eq => exact List.forall_mem_cons.2 ⟨⟨hhead.1, hvalue⟩, hrest⟩
    | gt => exact List.forall_mem_cons.2 ⟨hhead, ih hrest⟩

/-- A property of entries that putting one more in preserves holds of the entries of any pairs. -/
theorem ofList_induction {motive : List (κ × ν) → Prop} {pairs : List (κ × ν)} (nil : motive [])
    (insert : ∀ p ∈ pairs, ∀ entries, motive entries →
      motive (Entries.insert cmp p.1 p.2 entries)) : motive (ofList cmp pairs) :=
  List.foldlRecOn pairs _ nil fun entries h p hp => insert p hp entries h

theorem forall_ofList {P : κ → Prop} {Q : ν → Prop} {pairs : List (κ × ν)}
    (h : ∀ p ∈ pairs, P p.1 ∧ Q p.2) : ∀ p ∈ ofList cmp pairs, P p.1 ∧ Q p.2 := by
  apply ofList_induction (motive := fun entries => ∀ p ∈ entries, P p.1 ∧ Q p.2)
  · intro p hp
    cases hp
  · intro p hp entries hentries
    exact forall_insert (h p hp).1 (h p hp).2 hentries

/-- A new key makes one more entry and changes none. -/
theorem insert_perm {key : κ} {value : ν} {entries : List (κ × ν)}
    (h : ∀ p ∈ entries, cmp key p.1 ≠ .eq) :
    (insert cmp key value entries).Perm ((key, value) :: entries) := by
  induction entries with
  | nil => exact .refl _
  | cons e rest ih =>
    obtain ⟨k, v⟩ := e
    obtain ⟨hhead, hrest⟩ := List.forall_mem_cons.1 h
    rw [insert]
    cases hk : cmp key k with
    | lt => exact .refl _
    | eq => exact absurd hk hhead
    | gt => exact ((ih hrest).cons (k, v)).trans (.swap ..)

variable [Std.TransCmp cmp]

theorem Ascending.insert {key : κ} {value : ν} {entries : List (κ × ν)}
    (h : Ascending cmp entries) : Ascending cmp (insert cmp key value entries) := by
  induction entries with
  | nil => exact List.pairwise_singleton ..
  | cons e rest ih =>
    obtain ⟨k, v⟩ := e
    obtain ⟨hhead, hrest⟩ := List.pairwise_cons.1 h
    rw [Entries.insert]
    cases hk : cmp key k with
    | lt =>
      refine List.pairwise_cons.2 ⟨?_, h⟩
      rw [List.forall_mem_cons]
      refine ⟨hk, ?_⟩
      intro p hp
      exact Std.TransCmp.lt_trans hk (hhead p hp)
    | eq => exact List.pairwise_cons.2 ⟨hhead, hrest⟩
    | gt =>
      refine List.pairwise_cons.2 ⟨?_, ih hrest⟩
      intro p hp
      have hlt : cmp k key = .lt := Std.OrientedCmp.lt_of_gt hk
      exact (forall_insert (P := (cmp k · = .lt)) (Q := fun _ => True) hlt trivial
        (fun q hq => ⟨hhead q hq, trivial⟩) p hp).1

theorem ascending_ofList (pairs : List (κ × ν)) : Ascending cmp (ofList cmp pairs) :=
  ofList_induction .nil fun _ _ _ h => h.insert

theorem DistinctKeys.perm {as bs : List (κ × ν)} (h : DistinctKeys cmp as) (hperm : as.Perm bs) :
    DistinctKeys cmp bs :=
  hperm.pairwise h fun hab hba => hab (Std.OrientedCmp.eq_symm hba)

/-- Pairs with different keys are all there in the end. -/
theorem ofList_perm {pairs : List (κ × ν)} (h : DistinctKeys cmp pairs) :
    (ofList cmp pairs).Perm pairs := by
  -- The entries put in so far grow in the induction, so it is about all of them.
  suffices hfold : ∀ entries : List (κ × ν), DistinctKeys cmp (entries ++ pairs) →
      (pairs.foldl (fun es p => insert cmp p.1 p.2 es) entries).Perm (entries ++ pairs) from
    hfold [] h
  clear h
  induction pairs with
  | nil =>
    intro entries _
    rw [List.append_nil]
    exact .refl _
  | cons p rest ih =>
    intro entries h
    have hperm : (insert cmp p.1 p.2 entries).Perm (p :: entries) := by
      apply insert_perm
      intro q hq
      have hqp := (List.pairwise_append.1 h).2.2 q hq p List.mem_cons_self
      exact fun heq => hqp (Std.OrientedCmp.eq_symm heq)
    have hmove : (insert cmp p.1 p.2 entries ++ rest).Perm (entries ++ p :: rest) :=
      (hperm.append_right rest).trans List.perm_middle.symm
    exact (ih _ (h.perm hmove.symm)).trans hmove

/-- Entries that ascend are determined by which they are. -/
theorem Ascending.eq_of_perm {as bs : List (κ × ν)} (has : Ascending cmp as)
    (hbs : Ascending cmp bs) (h : as.Perm bs) : as = bs := by
  refine List.Perm.eq_of_pairwise (fun a b _ _ hab hba => ?_) has hbs h
  exact absurd hba (Std.OrientedCmp.not_lt_of_lt hab)

/-- Entries put in again, in whatever order, are what they were. -/
theorem ofList_eq_of_perm {pairs entries : List (κ × ν)} (hperm : pairs.Perm entries)
    (h : Ascending cmp entries) : ofList cmp pairs = entries :=
  (ascending_ofList pairs).eq_of_perm h ((ofList_perm (h.distinctKeys.perm hperm.symm)).trans hperm)

/-- Entries may go through the order of other keys and back: if what goes with them has the same keys
only where they have, it can be sorted by these, and what goes with that makes the same entries. -/
theorem exists_ofList_of_forall₂ {κ' ν' : Type} {cmp' : κ' → κ' → Ordering} [Std.TransCmp cmp']
    {R : κ' × ν' → κ × ν → Prop} {ps : List (κ' × ν')} {es : List (κ × ν)}
    (h : List.Forall₂ R ps es) (hes : Ascending cmp es)
    (hkeys : ∀ p q e f, R p e → R q f → cmp' p.1 q.1 = .eq → cmp e.1 f.1 = .eq) :
    ∃ fs, List.Forall₂ R (ofList cmp' ps) fs ∧ ofList cmp fs = es := by
  have hdistinct : DistinctKeys cmp' ps := by
    apply pairwise_of_forall₂ h _ hes.distinctKeys
    intro p q e f hp hq hef hpq
    exact hef (hkeys p q e f hp hq hpq)
  obtain ⟨fs, hfs, hperm⟩ := List.perm_comp_forall₂ (ofList_perm hdistinct) h
  exact ⟨fs, hfs, ofList_eq_of_perm hperm hes⟩

theorem forall₂_insert {R : ν → ν → Prop} {k l : κ} {v w : ν} (hkey : cmp k l = .eq)
    (hvalue : R v w) {as bs : List (κ × ν)}
    (h : List.Forall₂ (fun p q => cmp p.1 q.1 = .eq ∧ R p.2 q.2) as bs) :
    List.Forall₂ (fun p q => cmp p.1 q.1 = .eq ∧ R p.2 q.2) (insert cmp k v as)
      (insert cmp l w bs) := by
  induction h with
  | nil => exact .cons ⟨hkey, hvalue⟩ .nil
  | cons hhead hrest ih =>
    rename_i p q ps qs
    have hcmp : cmp k p.1 = cmp l q.1 :=
      (Std.TransCmp.congr_left hkey).trans (Std.TransCmp.congr_right hhead.1)
    rw [insert, insert, hcmp]
    cases cmp l q.1 with
    | lt => exact .cons ⟨hkey, hvalue⟩ (.cons hhead hrest)
    | eq => exact .cons ⟨hhead.1, hvalue⟩ hrest
    | gt => exact .cons hhead ih

/-- Pairs with the same keys and related values make entries with the same keys and related
values. -/
theorem forall₂_ofList {R : ν → ν → Prop} {ps qs : List (κ × ν)}
    (h : List.Forall₂ (fun p q => cmp p.1 q.1 = .eq ∧ R p.2 q.2) ps qs) :
    List.Forall₂ (fun p q => cmp p.1 q.1 = .eq ∧ R p.2 q.2) (ofList cmp ps) (ofList cmp qs) := by
  suffices hfold : ∀ as bs, List.Forall₂ (fun p q => cmp p.1 q.1 = .eq ∧ R p.2 q.2) as bs →
      List.Forall₂ (fun p q => cmp p.1 q.1 = .eq ∧ R p.2 q.2)
        (ps.foldl (fun es p => insert cmp p.1 p.2 es) as)
        (qs.foldl (fun es p => insert cmp p.1 p.2 es) bs) from
    hfold [] [] .nil
  induction h with
  | nil => exact fun _ _ h => h
  | cons hhead _ ih => exact fun as bs has => ih _ _ (forall₂_insert hhead.1 hhead.2 has)

end ColumnScan.Entries
