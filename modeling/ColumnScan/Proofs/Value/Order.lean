import ColumnScan.Proofs.Decimal.Order
import ColumnScan.Proofs.Value.Keys

/-!
# The orders of values

The orders of scalars, of native values and of stored values are total orders up to sameness, and
fingerprints tell apart exactly what they do. Only decimals can be the same without being equal, alone
or anywhere inside other values. Main statements: `Scalar.keyAt`, `Native.keyAt` and `Stored.keyAt`,
from which the instances of `Std.TransCmp` come; `Native.alike_of_cmp` and `Stored.alike_of_cmp`.
-/

namespace ColumnScan

/-! ## Dates and bounded text -/

namespace Calendar

instance : Std.TransCmp Date.cmp :=
  inferInstanceAs (Std.TransCmp (compareLex (compareOn Date.year)
    (compareLex (compareOn Date.month) (compareOn Date.day))))

theorem Date.eq_of_cmp {a b : Date} (h : a.cmp b = .eq) : a = b := by
  simp only [cmp, Ordering.then_eq_eq, Std.LawfulEqOrd.compare_eq_iff_eq] at h
  rcases h with ⟨hy, hm, hd⟩
  cases a
  cases b
  cases hy
  cases hm
  cases hd
  rfl

instance : Std.TransOrd Date := inferInstanceAs (Std.TransCmp Date.cmp)

instance : Std.TransCmp DateTime.cmp :=
  inferInstanceAs (Std.TransCmp (compareLex (compareOn DateTime.date)
    (compareLex (compareOn DateTime.hour) (compareLex (compareOn DateTime.minute)
      (compareLex (compareOn DateTime.second) (compareOn DateTime.nano))))))

theorem DateTime.eq_of_cmp {a b : DateTime} (h : a.cmp b = .eq) : a = b := by
  simp only [cmp, Ordering.then_eq_eq, Std.LawfulEqOrd.compare_eq_iff_eq] at h
  rcases h with ⟨hdate, hh, hm, hs, hn⟩
  have hdate := Date.eq_of_cmp hdate
  cases a
  cases b
  cases hdate
  cases hh
  cases hm
  cases hs
  cases hn
  rfl

theorem Date.keyAt (d : Date) :
    KeyAt cmp (fun d => [.number d.year, .number d.month, .number d.day]) d :=
  .ofLength (fun _ => rfl) fun e => by simp [cmp, Ordering.then_eq_eq]

theorem DateTime.keyAt (t : DateTime) :
    KeyAt cmp (fun t => [.number t.date.year, .number t.date.month, .number t.date.day,
      .number t.hour, .number t.minute, .number t.second, .number t.nano]) t :=
  .ofLength (fun _ => rfl) fun u => by simp [cmp, Date.cmp, Ordering.then_eq_eq, and_assoc]

end Calendar

namespace BoundedText

instance : Std.TransCmp cmp :=
  inferInstanceAs (Std.TransCmp (compareLex (compareOn BoundedText.value)
    (compareOn fun s : BoundedText => s.limit.toNat)))

theorem eq_of_parts {a b : BoundedText} (hvalue : a.value = b.value) (hlimit : a.limit = b.limit) :
    a = b := by
  cases a
  cases b
  cases hvalue
  cases hlimit
  rfl

theorem eq_of_cmp {a b : BoundedText} (h : a.cmp b = .eq) : a = b := by
  simp only [cmp, Ordering.then_eq_eq, Std.LawfulEqOrd.compare_eq_iff_eq] at h
  exact eq_of_parts h.1 (UInt32.toNat_inj.1 h.2)

theorem keyAt (s : BoundedText) : KeyAt cmp Stored.textMarks s :=
  .ofLength (fun _ => rfl) fun t => by simp [Stored.textMarks, cmp, Ordering.then_eq_eq]

end BoundedText

/-! ## Scalars -/

theorem Ieee.Format.compare_totalKey_eq_eq_iff {f : Format} {a b : Nat} :
    compare (f.totalKey a) (f.totalKey b) = .eq ↔ a = b := by
  rw [Std.LawfulEqOrd.compare_eq_iff_eq]
  exact ⟨totalKey_injective, congrArg f.totalKey⟩

/-- Bits in the order of the numbers they stand for are told by the bits themselves. -/
theorem Ieee.Format.keyAt (f : Format) {α : Type} (bits : α → Nat) (a : α) :
    KeyAt (compareOn fun b => f.totalKey (bits b)) (fun b => [.number (bits b)]) a :=
  .ofNumber _ fun _ => Int.natCast_inj.trans compare_totalKey_eq_eq_iff.symm

namespace Scalar

/-- The marks of a scalar, its kind first. -/
def fingerprint (s : Scalar) : List Mark := .number s.rank :: s.marks

theorem byKind : ByKind rank cmp fingerprint where
  cmp_of_rank_ne a b h := by cases a <;> cases b <;> first | rfl | exact absurd rfl h
  head?_marks _ := rfl

theorem keyAt : (a : Scalar) → KeyAt cmp fingerprint a
  | .boolean x => by
    have hbit : KeyAt compare (fun b => [.number (if b then 1 else 0)]) x :=
      .ofNumber _ fun y => by cases x <;> cases y <;> decide
    exact byKind.keyAt boolean (hbit.cons (.number 1))
  | .byte x => byKind.keyAt byte ((KeyAt.ofCompareOn Int8.toInt x).cons (.number 2))
  | .short x => byKind.keyAt short ((KeyAt.ofCompareOn Int16.toInt x).cons (.number 3))
  | .int x => byKind.keyAt int ((KeyAt.ofCompareOn Int32.toInt x).cons (.number 4))
  | .long x => byKind.keyAt long ((KeyAt.ofCompareOn Int64.toInt x).cons (.number 5))
  | .float x =>
    byKind.keyAt float
      ((Ieee.singleFormat.keyAt (fun y : Ieee.Single => y.bits.toNat) x).cons (.number 6))
  | .double x =>
    byKind.keyAt double
      ((Ieee.doubleFormat.keyAt (fun y : Ieee.Double => y.bits.toNat) x).cons (.number 7))
  | .string x => by
    have htext : KeyAt compare (fun s => [.text s]) x :=
      .ofLength (fun _ => rfl) fun y => by
        rw [List.singleton_inj, Mark.text.injEq, Std.LawfulEqOrd.compare_eq_iff_eq]
    exact byKind.keyAt string (htext.cons (.number 8))
  | .binary bytes => by
    have hbytes : KeyAt (List.compareLex fun x y => compare x.toNat y.toNat)
        (fun bytes => .number bytes.length :: bytes.flatMap fun b : UInt8 => [.number b.toNat])
        bytes :=
      .list fun c _ => .ofNat UInt8.toNat c
    refine byKind.keyAt binary (hbytes.cons (.number 9)) (fun _ _ => rfl) fun ys => ?_
    rw [← List.map_eq_flatMap]
    rfl
  | .decimal d => by
    have hparts : KeyAt Decimal.cmp
        (fun e => [.number e.normalize.unscaled, .number e.normalize.scale]) d :=
      .ofLength (fun _ => rfl) fun e => by
        rw [← Decimal.normalize_eq_iff, List.cons.injEq, List.singleton_inj, Mark.number.injEq,
          Mark.number.injEq, Int.natCast_inj]
        exact ⟨fun h => Decimal.eq_of_parts h.1 h.2, fun h => by rw [h]; exact ⟨rfl, rfl⟩⟩
    exact byKind.keyAt decimal (hparts.cons (.number 12))

instance : Std.TransCmp cmp := transCmp_of_lawfulAt fun a => (keyAt a).lawful

/-- Only decimals can be the same without being equal. -/
theorem eq_or_decimal_of_cmp {a b : Scalar} (h : a.cmp b = .eq) :
    a = b ∨ ∃ d e, a = .decimal d ∧ b = .decimal e ∧ d.cmp e = .eq := by
  have hrank := byKind.rank_eq h
  cases a <;> cases b <;> simp only [rank, Nat.reduceEqDiff] at hrank <;>
    simp only [cmp, Std.LawfulEqOrd.compare_eq_iff_eq] at h
  case boolean.boolean => exact .inl (congrArg boolean h)
  case byte.byte => exact .inl (congrArg byte (Int8.toInt_inj.1 h))
  case short.short => exact .inl (congrArg short (Int16.toInt_inj.1 h))
  case int.int => exact .inl (congrArg int (Int32.toInt_inj.1 h))
  case long.long => exact .inl (congrArg long (Int64.toInt_inj.1 h))
  case float.float x y =>
    have hbits := Ieee.Format.totalKey_injective (Std.LawfulEqOrd.compare_eq_iff_eq.1 h)
    exact .inl (congrArg (fun bits => float ⟨bits⟩) (UInt32.toNat_inj.1 hbits))
  case double.double x y =>
    have hbits := Ieee.Format.totalKey_injective (Std.LawfulEqOrd.compare_eq_iff_eq.1 h)
    exact .inl (congrArg (fun bits => double ⟨bits⟩) (UInt64.toNat_inj.1 hbits))
  case string.string => exact .inl (congrArg string h)
  case binary.binary =>
    have hall := (compareLex_eq_eq_iff.1 h).imp fun x y hxy =>
      UInt8.toNat_inj.1 (Std.LawfulEqOrd.compare_eq_iff_eq.1 hxy)
    rw [List.forall₂_eq_eq_eq] at hall
    exact .inl (congrArg binary hall)
  case decimal.decimal d e => exact .inr ⟨d, e, rfl, rfl, h⟩

end Scalar

/-! ## Native values -/

namespace Native

/-- What holds of a value if it holds of its parts holds of every value. -/
@[elab_as_elim]
theorem byParts {motive : Native → Prop} (null : motive .null) (scalar : ∀ x, motive (.scalar x))
    (date : ∀ d, motive (.date d)) (timestamp : ∀ t, motive (.timestamp t))
    (list : ∀ items, (∀ v ∈ items, motive v) → motive (.list items))
    (map : ∀ entries, (∀ e ∈ entries, motive e.1 ∧ motive e.2) → motive (.map entries))
    (a : Native) : motive a :=
  -- Lists of values and of entries are gone through with motives of their own.
  @Native.rec motive (fun items => ∀ v ∈ items, motive v)
    (fun entries => ∀ e ∈ entries, motive e.1 ∧ motive e.2) (fun e => motive e.1 ∧ motive e.2)
    null scalar date timestamp list map
    (List.forall_mem_nil _) (fun _ _ hv hrest => List.forall_mem_cons.2 ⟨hv, hrest⟩)
    (List.forall_mem_nil _) (fun _ _ he hrest => List.forall_mem_cons.2 ⟨he, hrest⟩)
    (fun _ _ => And.intro) a

theorem byKind : ByKind rank cmp fingerprint where
  cmp_of_rank_ne a b h := by
    cases a <;> cases b <;>
      first | rfl | exact absurd rfl h | exact Scalar.byKind.cmp_of_rank_ne _ _ h
  head?_marks a := by cases a <;> rfl

theorem compares_cmp : Compares cmp cmpList cmpEntries :=
  ⟨fun _ _ => eq_compareLex _ _, fun _ _ => eq_compareLex _ _⟩

theorem gathers_fingerprint : Gathers fingerprint fingerprintList fingerprintEntries :=
  ⟨fun _ => eq_flatMap _, fun _ => eq_flatMap _⟩

theorem keyAt (a : Native) : KeyAt cmp fingerprint a := by
  induction a using byParts with
  | null => exact byKind.keyAt (fun _ => null) ((KeyAt.unit ()).cons (.number 0))
  | scalar x => exact byKind.keyAt scalar x.keyAt
  | date d => exact byKind.keyAt date (d.keyAt.cons (.number 10))
  | timestamp t => exact byKind.keyAt timestamp (t.keyAt.cons (.number 11))
  | list items ih =>
    have hitems := KeyAt.items compares_cmp gathers_fingerprint ih
    exact byKind.keyAt list (hitems.cons (.number 13))
  | map entries ih =>
    have hentries := KeyAt.entries compares_cmp gathers_fingerprint ih
    exact byKind.keyAt map (hentries.cons (.number 14))

instance : Std.TransCmp cmp := transCmp_of_lawfulAt fun a => (keyAt a).lawful

/-- The ways in which two values can be the same. -/
inductive Alike : Native → Native → Prop where
  | refl (a : Native) : Alike a a
  | decimal {d e : Decimal} (h : d.cmp e = .eq) : Alike (.scalar (.decimal d)) (.scalar (.decimal e))
  | list {as bs : List Native} (h : List.Forall₂ (fun a b => a.cmp b = .eq) as bs) :
    Alike (.list as) (.list bs)
  | map {as bs : List (Native × Native)}
    (h : List.Forall₂ (fun p q => p.1.cmp q.1 = .eq ∧ p.2.cmp q.2 = .eq) as bs) :
    Alike (.map as) (.map bs)

theorem alike_of_cmp {a b : Native} (h : a.cmp b = .eq) : Alike a b := by
  cases a with
  | null =>
    obtain ⟨_, rfl, _⟩ := byKind.exists_of_cmp (fun _ => null) () h
    exact .refl null
  | scalar x =>
    obtain ⟨y, rfl, hxy⟩ := byKind.exists_of_cmp scalar _ h
    obtain rfl | ⟨d, e, rfl, rfl, hde⟩ := Scalar.eq_or_decimal_of_cmp hxy
    · exact .refl _
    · exact .decimal hde
  | date d =>
    obtain ⟨e, rfl, hde⟩ := byKind.exists_of_cmp date _ h
    obtain rfl := Calendar.Date.eq_of_cmp hde
    exact .refl _
  | timestamp t =>
    obtain ⟨u, rfl, htu⟩ := byKind.exists_of_cmp timestamp _ h
    obtain rfl := Calendar.DateTime.eq_of_cmp htu
    exact .refl _
  | list as =>
    obtain ⟨bs, rfl, hitems⟩ := byKind.exists_of_cmp list _ h
    exact .list (compares_cmp.items_eq_eq_iff.1 hitems)
  | map as =>
    obtain ⟨bs, rfl, hentries⟩ := byKind.exists_of_cmp map _ h
    exact .map (compares_cmp.entries_eq_eq_iff.1 hentries)

end Native

/-! ## Stored values -/

namespace Stored

/-- What holds of a value if it holds of its parts holds of every value. -/
@[elab_as_elim]
theorem byParts {motive : Stored → Prop} (null : motive .null) (scalar : ∀ x, motive (.scalar x))
    (date : ∀ days, motive (.date days)) (timestamp : ∀ nanos, motive (.timestamp nanos))
    (char : ∀ s, motive (.char s)) (varchar : ∀ s, motive (.varchar s))
    (struct : ∀ children, (∀ v ∈ children, motive v) → motive (.struct children))
    (list : ∀ items, (∀ v ∈ items, motive v) → motive (.list items))
    (map : ∀ entries, (∀ e ∈ entries, motive e.1 ∧ motive e.2) → motive (.map entries))
    (union : ∀ tag v, motive v → motive (.union tag v)) (a : Stored) : motive a :=
  -- Lists of values and of entries are gone through with motives of their own.
  @Stored.rec motive (fun items => ∀ v ∈ items, motive v)
    (fun entries => ∀ e ∈ entries, motive e.1 ∧ motive e.2) (fun e => motive e.1 ∧ motive e.2)
    null scalar date timestamp char varchar struct list map union
    (List.forall_mem_nil _) (fun _ _ hv hrest => List.forall_mem_cons.2 ⟨hv, hrest⟩)
    (List.forall_mem_nil _) (fun _ _ he hrest => List.forall_mem_cons.2 ⟨he, hrest⟩)
    (fun _ _ => And.intro) a

theorem byKind : ByKind rank cmp fingerprint where
  cmp_of_rank_ne a b h := by
    cases a <;> cases b <;>
      first | rfl | exact absurd rfl h | exact Scalar.byKind.cmp_of_rank_ne _ _ h
  head?_marks a := by cases a <;> rfl

theorem compares_cmp : Compares cmp cmpList cmpEntries :=
  ⟨fun _ _ => eq_compareLex _ _, fun _ _ => eq_compareLex _ _⟩

theorem gathers_fingerprint : Gathers fingerprint fingerprintList fingerprintEntries :=
  ⟨fun _ => eq_flatMap _, fun _ => eq_flatMap _⟩

theorem keyAt (a : Stored) : KeyAt cmp fingerprint a := by
  induction a using byParts with
  | null => exact byKind.keyAt (fun _ => null) ((KeyAt.unit ()).cons (.number 0))
  | scalar x => exact byKind.keyAt scalar x.keyAt
  | date days => exact byKind.keyAt date ((KeyAt.ofCompareOn Int32.toInt days).cons (.number 10))
  | timestamp nanos =>
    exact byKind.keyAt timestamp ((KeyAt.ofCompareOn Int64.toInt nanos).cons (.number 11))
  | char s => exact byKind.keyAt char (s.keyAt.cons (.number 13))
  | varchar s => exact byKind.keyAt varchar (s.keyAt.cons (.number 14))
  | struct children ih =>
    have hchildren := KeyAt.items compares_cmp gathers_fingerprint ih
    exact byKind.keyAt struct (hchildren.cons (.number 15))
  | list items ih =>
    have hitems := KeyAt.items compares_cmp gathers_fingerprint ih
    exact byKind.keyAt list (hitems.cons (.number 16))
  | map entries ih =>
    have hentries := KeyAt.entries compares_cmp gathers_fingerprint ih
    exact byKind.keyAt map (hentries.cons (.number 17))
  | union tag v ih =>
    have htag : KeyAt (fun t u : UInt8 => compare t.toNat u.toNat) _ tag := .ofNat UInt8.toNat tag
    exact byKind.keyAt (fun p => union p.1 p.2) ((htag.pair ih).cons (.number 18))

instance : Std.TransCmp cmp := transCmp_of_lawfulAt fun a => (keyAt a).lawful

/-- The ways in which two values can be the same. -/
inductive Alike : Stored → Stored → Prop where
  | refl (a : Stored) : Alike a a
  | decimal {d e : Decimal} (h : d.cmp e = .eq) : Alike (.scalar (.decimal d)) (.scalar (.decimal e))
  | struct {as bs : List Stored} (h : List.Forall₂ (fun a b => a.cmp b = .eq) as bs) :
    Alike (.struct as) (.struct bs)
  | list {as bs : List Stored} (h : List.Forall₂ (fun a b => a.cmp b = .eq) as bs) :
    Alike (.list as) (.list bs)
  | map {as bs : List (Stored × Stored)}
    (h : List.Forall₂ (fun p q => p.1.cmp q.1 = .eq ∧ p.2.cmp q.2 = .eq) as bs) :
    Alike (.map as) (.map bs)
  | union {tag : UInt8} {a b : Stored} (h : a.cmp b = .eq) : Alike (.union tag a) (.union tag b)

theorem alike_of_cmp {a b : Stored} (h : a.cmp b = .eq) : Alike a b := by
  cases a with
  | null =>
    obtain ⟨_, rfl, _⟩ := byKind.exists_of_cmp (fun _ => null) () h
    exact .refl null
  | scalar x =>
    obtain ⟨y, rfl, hxy⟩ := byKind.exists_of_cmp scalar _ h
    obtain rfl | ⟨d, e, rfl, rfl, hde⟩ := Scalar.eq_or_decimal_of_cmp hxy
    · exact .refl _
    · exact .decimal hde
  | date d =>
    obtain ⟨e, rfl, hde⟩ := byKind.exists_of_cmp date _ h
    obtain rfl := Int32.toInt_inj.1 (Std.LawfulEqOrd.compare_eq_iff_eq.1 hde)
    exact .refl _
  | timestamp t =>
    obtain ⟨u, rfl, htu⟩ := byKind.exists_of_cmp timestamp _ h
    obtain rfl := Int64.toInt_inj.1 (Std.LawfulEqOrd.compare_eq_iff_eq.1 htu)
    exact .refl _
  | char s =>
    obtain ⟨t, rfl, hst⟩ := byKind.exists_of_cmp char _ h
    obtain rfl := BoundedText.eq_of_cmp hst
    exact .refl _
  | varchar s =>
    obtain ⟨t, rfl, hst⟩ := byKind.exists_of_cmp varchar _ h
    obtain rfl := BoundedText.eq_of_cmp hst
    exact .refl _
  | struct as =>
    obtain ⟨bs, rfl, hitems⟩ := byKind.exists_of_cmp struct _ h
    exact .struct (compares_cmp.items_eq_eq_iff.1 hitems)
  | list as =>
    obtain ⟨bs, rfl, hitems⟩ := byKind.exists_of_cmp list _ h
    exact .list (compares_cmp.items_eq_eq_iff.1 hitems)
  | map as =>
    obtain ⟨bs, rfl, hentries⟩ := byKind.exists_of_cmp map _ h
    exact .map (compares_cmp.entries_eq_eq_iff.1 hentries)
  | union t x =>
    obtain ⟨⟨u, y⟩, rfl, hxy⟩ := byKind.exists_of_cmp (fun p => union p.1 p.2) (t, x) h
    obtain ⟨htag, hvalue⟩ := Ordering.then_eq_eq.1 hxy
    obtain rfl := UInt8.toNat_inj.1 (Std.LawfulEqOrd.compare_eq_iff_eq.1 htag)
    exact .union hvalue

end Stored

end ColumnScan
