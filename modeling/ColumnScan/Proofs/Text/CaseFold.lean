import ColumnScan.Text.CaseMap
import Mathlib.Data.List.Forall2

/-!
# Names that differ in the case of letters a to z

Two names that are equal but for the case of the letters a to z are equal in lower case: such a
letter becomes the same small letter either way, and it neither is a capital sigma nor decides
differently whether one ends a word. Main statement: `lowercase_eq_of_equalIgnoringAsciiCase`.
-/

namespace ColumnScan.Text

/-- Two characters that lower case does not tell apart, neither as themselves nor as the
surroundings of a capital sigma. -/
structure Interchangeable (c d : Char) : Prop where
  apply_eq : lowerTable.apply c = lowerTable.apply d
  sigma_iff : c = capitalSigma ↔ d = capitalSigma
  ignorable_eq : caseIgnorable.has c = caseIgnorable.has d
  cased_eq : cased.has c = cased.has d

theorem Interchangeable.symm {c d : Char} (h : Interchangeable c d) : Interchangeable d c :=
  ⟨h.apply_eq.symm, h.sigma_iff.symm, h.ignorable_eq.symm, h.cased_eq.symm⟩

theorem Interchangeable.trans {c d e : Char} (h : Interchangeable c d) (h' : Interchangeable d e) :
    Interchangeable c e :=
  ⟨h.apply_eq.trans h'.apply_eq, h.sigma_iff.trans h'.sigma_iff,
    h.ignorable_eq.trans h'.ignorable_eq, h.cased_eq.trans h'.cased_eq⟩

theorem interchangeable_toLower (c : Char) : Interchangeable c c.toLower := by
  by_cases h : c.val ≥ 'A'.val ∧ c.val ≤ 'Z'.val
  · -- Only the letters A to Z change, and these are few enough to be looked at one by one.
    have hall : ∀ n < 26, (let c := Char.ofNat (65 + n)
        lowerTable.apply c = lowerTable.apply c.toLower ∧
          (c ≠ capitalSigma ∧ c.toLower ≠ capitalSigma) ∧
          caseIgnorable.has c = caseIgnorable.has c.toLower ∧
          cased.has c = cased.has c.toLower) := by
      decide +kernel
    have hlow : 65 ≤ c.toNat := UInt32.le_iff_toNat_le.1 h.1
    have hhigh : c.toNat ≤ 90 := UInt32.le_iff_toNat_le.1 h.2
    obtain ⟨happly, hsigma, hignorable, hcased⟩ := hall (c.toNat - 65) (by omega)
    rw [Nat.add_sub_cancel' hlow, Char.ofNat_toNat] at happly hsigma hignorable hcased
    exact ⟨happly, by simp [hsigma], hignorable, hcased⟩
  · have hself : c.toLower = c := dif_neg h
    rw [hself]
    exact ⟨rfl, .rfl, rfl, rfl⟩

theorem interchangeable_of_toLower_eq {c d : Char} (h : c.toLower = d.toLower) :
    Interchangeable c d :=
  (interchangeable_toLower c).trans (h ▸ (interchangeable_toLower d).symm)

theorem meetsCased_congr {cs ds : List Char} (h : List.Forall₂ Interchangeable cs ds) :
    meetsCased cs = meetsCased ds := by
  induction h with
  | nil => rfl
  | @cons c d cs ds hhead _ ih =>
    simp only [meetsCased, List.dropWhile_cons, hhead.ignorable_eq] at ih ⊢
    by_cases hi : caseIgnorable.has d = true
    · rw [if_pos hi, if_pos hi]
      exact ih
    · rw [if_neg hi, if_neg hi]
      exact hhead.cased_eq

/-- The characters before are gathered in reverse, so both lists are followed in the induction. -/
theorem lowerFrom_congr {before before' cs ds : List Char}
    (hbefore : List.Forall₂ Interchangeable before before')
    (h : List.Forall₂ Interchangeable cs ds) : lowerFrom before cs = lowerFrom before' ds := by
  induction h generalizing before before' with
  | nil => rfl
  | @cons c d cs ds hhead hrest ih =>
    rw [lowerFrom, lowerFrom, ih (.cons hhead hbefore), hhead.apply_eq, meetsCased_congr hbefore,
      meetsCased_congr hrest]
    simp only [hhead.sigma_iff]

theorem lowercase_eq_of_equalIgnoringAsciiCase {s t : String}
    (h : equalIgnoringAsciiCase s t = true) : lowercase s = lowercase t := by
  have hmap : List.Forall₂ (· = ·) (s.toList.map Char.toLower) (t.toList.map Char.toLower) := by
    rw [List.forall₂_eq_eq_eq]
    exact eq_of_beq h
  have hchars : List.Forall₂ Interchangeable s.toList t.toList :=
    (List.forall₂_map_right_iff.1 (List.forall₂_map_left_iff.1 hmap)).imp fun _ _ =>
      interchangeable_of_toLower_eq
  rw [lowercase, lowercase, lowerFrom_congr .nil hchars]

end ColumnScan.Text
