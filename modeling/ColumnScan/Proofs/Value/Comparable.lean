import ColumnScan.Proofs.Value.Order

/-!
# Values that predicates compare

The comparison of predicates is partial. Two values are comparable when they are of one kind and each of
them is comparable with itself, which nulls, composites and not-a-numbers are not; the other way round
the answer is the opposite one. Main statements: `Stored.isSome_compare?_iff` and `Stored.compare?_swap`.
-/

namespace ColumnScan

/-! ## Floating-point numbers -/

namespace Ieee.Format

variable (f : Format) (a b : Nat)

theorem isSome_compareNumbers :
    (f.compareNumbers a b).isSome = (!f.isNaN a && !f.isNaN b) := by
  rw [compareNumbers, ← Bool.not_or]
  cases f.isNaN a || f.isNaN b <;> rfl

theorem compareNumbers_swap :
    f.compareNumbers b a = (f.compareNumbers a b).map Ordering.swap := by
  have hswap : ∀ m n : Int, compare n m = (compare m n).swap := fun _ _ => Std.OrientedCmp.eq_swap
  rw [compareNumbers, compareNumbers, Bool.or_comm, hswap]
  cases f.isNaN a || f.isNaN b <;> rfl

theorem ofRatio_le (num den : Nat) : f.ofRatio num den ≤ f.infinityBits := by
  rw [ofRatio]
  split
  · exact Nat.zero_le _
  · exact Nat.min_le_right _ _

/-- A magnitude up to infinity is a number, whatever its sign. -/
theorem isNaN_withSign {f : Format} (hf : f.infinityBits < f.signWeight) (negative : Bool)
    {magnitude : Nat} (h : magnitude ≤ f.infinityBits) :
    f.isNaN (f.withSign negative magnitude) = false := by
  have hmagnitude : f.magnitudeBits (f.withSign negative magnitude) = magnitude := by
    have hlt : magnitude < f.signWeight := Nat.lt_of_le_of_lt h hf
    cases negative with
    | false => exact Nat.mod_eq_of_lt hlt
    | true => exact (Nat.add_mod_right magnitude f.signWeight).trans (Nat.mod_eq_of_lt hlt)
  rw [isNaN, hmagnitude]
  exact decide_eq_false (Nat.not_lt.2 h)

end Ieee.Format

namespace Ieee.Double

/-- A number stays one when it is rounded to the smaller format. -/
theorem isNaN_toSingle {x : Double} (h : x.isNaN = false) :
    singleFormat.isNaN x.toSingle.bits.toNat = false := by
  have hmagnitude : ∃ magnitude ≤ singleFormat.infinityBits,
      x.toSingle.bits =
        (singleFormat.withSign (doubleFormat.isNegative x.bits.toNat) magnitude).toUInt32 := by
    rw [isNaN] at h
    simp only [toSingle, h, Bool.false_eq_true, if_false]
    refine ⟨_, ?_, rfl⟩
    split
    · exact Nat.le_refl _
    · split <;> exact Format.ofRatio_le ..
  obtain ⟨magnitude, hle, hbits⟩ := hmagnitude
  have hinfinity : singleFormat.infinityBits < singleFormat.signWeight := by decide +kernel
  have hword : singleFormat.infinityBits + singleFormat.signWeight < UInt32.size := by decide +kernel
  have hfits : singleFormat.withSign (doubleFormat.isNegative x.bits.toNat) magnitude < UInt32.size := by
    rw [Format.withSign]
    split <;> omega
  rw [hbits, Nat.toUInt32, UInt32.toNat_ofNat_of_lt' hfits]
  exact Format.isNaN_withSign hinfinity _ hle

end Ieee.Double

/-! ## Scalars -/

namespace Scalar

theorem compare?_swap (a b : Scalar) : b.compare? a = (a.compare? b).map Ordering.swap := by
  cases a <;> cases b
  case float.float => exact Ieee.Format.compareNumbers_swap ..
  case double.double => exact Ieee.Format.compareNumbers_swap ..
  case binary.binary x y =>
    exact congrArg some ((LawfulAt.list fun z _ => lawfulAt_of_transCmp (compareOn UInt8.toNat) z).swap y)
  all_goals first | rfl | exact congrArg some Std.OrientedCmp.eq_swap

theorem isSome_compare?_iff {a b : Scalar} : (a.compare? b).isSome ↔
    (a.compare? a).isSome ∧ (b.compare? b).isSome ∧ a.kindName = b.kindName := by
  cases a <;> cases b
  case float.float => simp [compare?, kindName, Ieee.Single.compare?, Ieee.Format.isSome_compareNumbers]
  case double.double => simp [compare?, kindName, Ieee.Double.compare?, Ieee.Format.isSome_compareNumbers]
  all_goals simp [compare?, kindName]

/-- No scalar is of a kind that only columns have. -/
theorem kindName_ne (x : Scalar) :
    x.kindName ≠ "date" ∧ x.kindName ≠ "timestamp" ∧ x.kindName ≠ "char" ∧ x.kindName ≠ "varchar" := by
  cases x <;> simp [kindName]

end Scalar

/-! ## Stored values -/

namespace Stored

theorem compare?_swap (a b : Stored) : b.compare? a = (a.compare? b).map Ordering.swap := by
  cases a <;> cases b
  case scalar.scalar => exact Scalar.compare?_swap ..
  all_goals first | rfl | exact congrArg some Std.OrientedCmp.eq_swap

/-- Values are comparable when they are of one kind and each is comparable with itself. -/
theorem isSome_compare?_iff {a b : Stored} : (a.compare? b).isSome ↔
    (a.compare? a).isSome ∧ (b.compare? b).isSome ∧ a.kindName = b.kindName := by
  cases a <;> cases b
  case scalar.scalar => exact Scalar.isSome_compare?_iff
  all_goals simp only [compare?, kindName, Option.isSome_none, Option.isSome_some, Bool.false_eq_true]
  all_goals grind [Scalar.kindName_ne]

/-- Values of different kinds are not compared. -/
theorem compare?_eq_none {a b : Stored} (h : a.kindName ≠ b.kindName) : a.compare? b = none := by
  rw [← Option.not_isSome_iff_eq_none, isSome_compare?_iff]
  exact fun ⟨_, _, hkind⟩ => h hkind

end Stored

end ColumnScan
