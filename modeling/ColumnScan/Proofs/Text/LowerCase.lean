import ColumnScan.Text.CaseMap

/-!
# Text in lower case

What a character becomes in lower case is left alone by lower case: it is no capital sigma, and neither
a run nor an expansion of the table names it. So a name that is in lower case already stands for itself,
however often it is brought to lower case on its way to a schema. Main statement: `lowercase_lowercase`.
-/

namespace ColumnScan.Text

/-! ## Runs -/

/-- The run names none of the code points from `low` to `high`; if they are `sparse`, only every other
one is meant, and the run may name those between. -/
def CaseRun.avoids (low high : Nat) (sparse : Bool) (q : CaseRun) : Bool :=
  Nat.blt high q.first || (Nat.blt q.last low || (sparse && q.step == 2 && (low + q.first) % 2 == 1))

/-- The code points that the run makes are those of characters, and none of the runs names them. -/
def CaseRun.settles (r : CaseRun) (runs : List CaseRun) : Bool :=
  match r.first + r.shift, r.last + r.shift with
  | .ofNat low, .ofNat high =>
    (Nat.blt high 0xd800 || Nat.blt 0xdfff low && Nat.blt high 0x110000) &&
      runs.all (avoids low high (r.step == 2 || r.first == r.last))
  | _, _ => false

theorem CaseRun.of_settles {r : CaseRun} {runs : List CaseRun} (h : r.settles runs = true) {code : Nat}
    (hcode : r.contains code = true) :
    (code + r.shift).toNat.isValidChar ∧ ∀ q ∈ runs, q.contains (code + r.shift).toNat = false := by
  simp only [contains, Bool.and_eq_true, decide_eq_true_eq, beq_iff_eq] at hcode
  obtain ⟨⟨hfirst, hlast⟩, hstep⟩ := hcode
  unfold settles at h
  split at h
  next low high hlow hhigh =>
    simp only [Int.ofNat_eq_natCast] at hlow hhigh
    simp only [Bool.or_eq_true, Bool.and_eq_true, Nat.blt_eq] at h
    obtain ⟨hchars, hruns⟩ := h
    refine ⟨?_, fun q hq => ?_⟩
    · unfold Nat.isValidChar
      omega
    · have havoids := List.all_eq_true.1 hruns q hq
      simp only [avoids, Bool.or_eq_true, Bool.and_eq_true, Nat.blt_eq, beq_iff_eq] at havoids
      rw [Bool.eq_false_iff]
      intro hmade
      simp only [contains, Bool.and_eq_true, decide_eq_true_eq, beq_iff_eq] at hmade
      obtain ⟨⟨hfirst', hlast'⟩, hstep'⟩ := hmade
      rcases havoids with h | h | ⟨⟨hsparse, htwo⟩, hodd⟩
      · omega
      · omega
      · -- What is made has the parity of the first, which the other run does not name.
        rw [htwo] at hstep'
        rcases hsparse with hsparse | hsingle
        · rw [hsparse] at hstep
          omega
        · omega
  next => cases h

/-! ## Lower case -/

/-- The only code point that becomes several characters. -/
def capitalIWithDot : CaseRun := ⟨0x130, 0x130, 1, 0⟩

theorem settles_lowerTable :
    ∀ r ∈ lowerTable.runs, r.settles (capitalIWithDot :: lowerTable.runs) = true := by
  decide +kernel

/-- Lower case leaves the character alone. -/
structure Lowered (c : Char) : Prop where
  apply_eq : lowerTable.apply c = [c]
  ne_sigma : c ≠ capitalSigma

instance (c : Char) : Decidable (Lowered c) :=
  decidable_of_iff (lowerTable.apply c = [c] ∧ c ≠ capitalSigma)
    ⟨fun h => ⟨h.1, h.2⟩, fun h => ⟨h.1, h.2⟩⟩

theorem ne_sigma_of_apply_eq {c : Char} (h : lowerTable.apply c = [c]) : c ≠ capitalSigma := by
  rintro rfl
  exact absurd h (by decide +kernel)

theorem lowered_of_apply_eq {c : Char} (h : lowerTable.apply c = [c]) : Lowered c :=
  ⟨h, ne_sigma_of_apply_eq h⟩

theorem apply_eq_of_unnamed {c : Char}
    (h : ∀ q ∈ capitalIWithDot :: lowerTable.runs, q.contains c.toNat = false) :
    lowerTable.apply c = [c] := by
  obtain ⟨hdot, hruns⟩ := List.forall_mem_cons.1 h
  have hexpansion : lowerTable.expansions.find? (·.1 == c.toNat) = none := by
    rw [List.find?_eq_none]
    intro p hp hcode
    obtain rfl := List.mem_singleton.1 hp
    rw [← eq_of_beq hcode] at hdot
    exact absurd hdot (by decide)
  have hrun : lowerTable.runs.find? (·.contains c.toNat) = none := by
    rw [List.find?_eq_none]
    exact fun q hq => Bool.eq_false_iff.1 (hruns q hq)
  rw [CaseTable.apply, hexpansion, hrun]

/-- What a character becomes stays as it is. -/
theorem lowered_of_mem_apply {c d : Char} (h : d ∈ lowerTable.apply c) : Lowered d := by
  cases happly : lowerTable.expansions.find? (·.1 == c.toNat) with
  | some p =>
    rw [CaseTable.apply, happly] at h
    obtain rfl := List.mem_singleton.1 (List.mem_of_find?_eq_some happly)
    change d ∈ [Char.ofNat 0x69, Char.ofNat 0x307] at h
    obtain rfl | h := List.mem_cons.1 h
    · decide +kernel
    · rw [List.mem_singleton.1 h]
      decide +kernel
  | none =>
    cases hrun : lowerTable.runs.find? (·.contains c.toNat) with
    | some r =>
      rw [CaseTable.apply, happly, hrun] at h
      obtain rfl := List.mem_singleton.1 h
      have hcode : r.contains c.toNat = true :=
        List.find?_some (p := fun q : CaseRun => q.contains c.toNat) hrun
      obtain ⟨hchar, hunnamed⟩ :=
        CaseRun.of_settles (settles_lowerTable r (List.mem_of_find?_eq_some hrun)) hcode
      apply lowered_of_apply_eq
      apply apply_eq_of_unnamed
      intro q hq
      have hmade : (Char.ofNat (c.toNat + r.shift).toNat).toNat = (c.toNat + r.shift).toNat := by
        rw [Char.ofNat, dif_pos hchar]
        rfl
      rw [hmade]
      exact hunnamed q hq
    | none =>
      have hself : lowerTable.apply c = [c] := by rw [CaseTable.apply, happly, hrun]
      rw [hself, List.mem_singleton] at h
      subst h
      exact lowered_of_apply_eq hself

/-- What is in lower case stays as it is, whatever surrounds it. -/
theorem lowerFrom_of_lowered {before cs : List Char} (h : ∀ c ∈ cs, Lowered c) :
    lowerFrom before cs = cs := by
  induction cs generalizing before with
  | nil => rfl
  | cons c rest ih =>
    obtain ⟨hc, hrest⟩ := List.forall_mem_cons.1 h
    rw [lowerFrom, if_neg hc.ne_sigma, hc.apply_eq, ih hrest]
    rfl

theorem lowered_of_mem_lowerFrom {before cs : List Char} {d : Char} (h : d ∈ lowerFrom before cs) :
    Lowered d := by
  induction cs generalizing before with
  | nil => cases h
  | cons c rest ih =>
    rw [lowerFrom] at h
    rcases List.mem_append.1 h with h | h
    · split at h
      · -- A capital sigma becomes one of the two small ones.
        split at h
        · rw [List.mem_singleton.1 h]
          decide +kernel
        · rw [List.mem_singleton.1 h]
          decide +kernel
      · exact lowered_of_mem_apply h
    · exact ih h

/-- A text in lower case is left alone. -/
theorem lowercase_lowercase (s : String) : lowercase (lowercase s) = lowercase s := by
  rw [lowercase, lowercase, String.toList_ofList, lowerFrom_of_lowered]
  intro c hc
  exact lowered_of_mem_lowerFrom hc

end ColumnScan.Text
