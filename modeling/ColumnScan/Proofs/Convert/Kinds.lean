import ColumnScan.Proofs.Convert.Parts
import ColumnScan.Proofs.Convert.Stock

/-!
# The kinds of values that a column takes

A stock converter refuses a value for its kind unless the type of the column takes values of that
kind, so in a union whose variants take different kinds, a value that one variant stores is refused
by all others. Main statements: `Stock.kindName_mem` and `Stock.mismatches_of_take`.
-/

namespace ColumnScan

/-- The names of the kinds of native values that a column of a scalar kind takes. -/
def Kind.takes : Kind → List String
  | .string | .char _ | .varchar _ => ["string"]
  | .boolean => ["boolean"]
  | .byte => ["byte"]
  | .short => ["short"]
  | .int => ["int"]
  | .long => ["long"]
  | .float => ["float"]
  | .double => ["double"]
  | .timestamp => ["timestamp"]
  | .date => ["date"]
  | .decimal .. => ["string", "decimal"]
  | .binary => ["binary"]

namespace DataType

mutual

/-- The names of the kinds of native values that a column takes; null is taken by every column. -/
def takes : DataType → List String
  | .primitive kind => kind.takes
  | .struct _ => ["list"]
  | .list _ => ["list"]
  | .map .. => ["map"]
  | .union variants => takesVariants variants

/-- The kinds that some variant takes. -/
def takesVariants : List DataType → List String
  | [] => []
  | type :: rest => type.takes ++ takesVariants rest

end

/-- In every union in the type, no two variants take values of one kind. -/
def Unambiguous (type : DataType) : Prop :=
  ∀ variants, .union variants ∈ type.nodes →
    variants.Pairwise fun t u => List.Disjoint t.takes u.takes

theorem Unambiguous.of_subset {type part : DataType} (h : type.Unambiguous)
    (hpart : part.nodes ⊆ type.nodes) : part.Unambiguous := by
  intro variants hvariants
  exact h variants (hpart hvariants)

theorem takesVariants_eq_flatMap (variants : List DataType) :
    takesVariants variants = variants.flatMap takes :=
  eq_flatMap variants

theorem takes_subset_union {variants : List DataType} {type : DataType} (h : type ∈ variants) :
    type.takes ⊆ (union variants).takes := by
  rw [takes, takesVariants_eq_flatMap]
  exact subset_flatMap_of_mem takes h

end DataType

namespace Converter

theorem kindName_mem_of_holds {kind : Kind} {x : Scalar} (h : holds kind x = true) :
    x.kindName ∈ kind.takes := by
  cases kind <;> cases x <;> first | exact List.mem_singleton.2 rfl | cases h

theorem mismatches_same {kind : Kind} {n : Native} (hn : n ≠ .null) (h : n.kindName ∉ kind.takes) :
    (same kind).Mismatches n := by
  cases n with
  | null => exact absurd rfl hn
  | scalar x =>
    have hx : ¬ holds kind x = true := by
      intro hx
      exact h (kindName_mem_of_holds hx)
    exact ⟨_, if_neg hx, rfl⟩
  | _ => exact ⟨_, rfl, rfl⟩

theorem mismatches_ofKind {kind : Kind} {n : Native} (hn : n ≠ .null)
    (h : n.kindName ∉ kind.takes) : (ofKind kind).Mismatches n := by
  cases kind with
  | decimal precision scale =>
    -- Text may be read as a decimal, so what is refused by its kind is neither.
    have hnone : decimalOf? n = none := by
      cases n with
      | scalar x => cases x <;> simp [Native.kindName, Scalar.kindName, Kind.takes, decimalOf?] at h ⊢
      | _ => rfl
    have hrefuse : (decimal precision scale).store n =
        refuseNative n (.scalar (.decimal precision scale)) := by
      simp only [decimal, hnone]
    exact ⟨_, (toStored_of_ne_null _ hn).trans hrefuse, rfl⟩
  | date | timestamp | char | varchar =>
    cases n with
    | null => exact absurd rfl hn
    | scalar x =>
      cases x <;> first | exact ⟨_, rfl, rfl⟩ | exact absurd (List.mem_singleton.2 rfl) h
    | _ => first | exact ⟨_, rfl, rfl⟩ | exact absurd (List.mem_singleton.2 rfl) h
  | _ => exact mismatches_same hn h

theorem mismatches_union {cs : List Converter} {n : Native} (hn : n ≠ .null)
    (h : ∀ c ∈ cs, c.Mismatches n) : (union cs).Mismatches n := by
  -- The tag grows from variant to variant, so the induction is for all tags.
  have hvariants : ∀ tag, ∃ e, storeVariant n tag cs = .error e ∧ e.isMismatch = true := by
    induction cs with
    | nil =>
      intro tag
      exact ⟨_, rfl, rfl⟩
    | cons c cs ih =>
      obtain ⟨⟨e, he, hm⟩, hcs⟩ := List.forall_mem_cons.1 h
      intro tag
      unfold storeVariant
      split
      · exact ⟨_, rfl, rfl⟩
      · rw [he]
        dsimp only
        rw [if_pos hm]
        exact ih hcs (tag + 1)
  rcases hvariants 0 with ⟨e, he, hm⟩
  exact ⟨e, (toStored_of_ne_null _ hn).trans he, hm⟩

end Converter

/-- A converter refuses every value of a kind that its type does not take. -/
theorem Stock.mismatches {type : DataType} {c : Converter} (h : Stock type c) {n : Native}
    (hn : n ≠ .null) (hkind : n.kindName ∉ type.takes) : c.Mismatches n := by
  induction h with
  | primitive kind => exact Converter.mismatches_ofKind hn hkind
  | struct | list | map =>
    cases n with
    | null => exact absurd rfl hn
    | _ => first | exact ⟨_, rfl, rfl⟩ | exact absurd (List.mem_singleton.2 rfl) hkind
  | union size _ ih =>
    apply Converter.mismatches_union hn
    intro c hc
    obtain ⟨type, htype, hpart⟩ := exists_mem_zip size hc
    apply ih (type, c) hpart
    intro hmem
    exact hkind (DataType.takes_subset_union htype hmem)

theorem Stock.kindName_mem {type : DataType} {c : Converter} (h : Stock type c) {n : Native}
    {s : Stored} (hn : n ≠ .null) (hs : c.toStored n = .ok s) : n.kindName ∈ type.takes := by
  by_contra hkind
  rcases h.mismatches hn hkind with ⟨e, he, _⟩
  rw [he] at hs
  cases hs

/-- What a variant takes is refused by the variants before it if they take other kinds. -/
theorem Stock.mismatches_of_take {variants : List DataType} {cs : List Converter}
    (size : variants.length = cs.length) (parts : ∀ p ∈ variants.zip cs, Stock p.1 p.2)
    (hdisjoint : variants.Pairwise fun t u => List.Disjoint t.takes u.takes) {i : Nat}
    {c : Converter} {m : Native} {t : Stored} (hc : cs[i]? = some c) (hm : m ≠ .null)
    (ht : c.toStored m = .ok t) : ∀ d ∈ cs.take i, d.Mismatches m := by
  intro d hd
  have hpart {k : Nat} (hk : k < cs.length) : Stock (variants.get ⟨k, size ▸ hk⟩) cs[k] := by
    have hmem := List.getElem_mem (l := variants.zip cs) (n := k) (by simp [size, hk])
    rw [List.getElem_zip] at hmem
    exact parts _ hmem
  rcases List.getElem?_eq_some_iff.1 hc with ⟨hi, rfl⟩
  rcases List.mem_take_iff_getElem.1 hd with ⟨j, hj, rfl⟩
  have hji : j < i := (Nat.lt_min.1 hj).1
  have hkind := (hpart hi).kindName_mem hm ht
  have hpair := List.pairwise_iff_getElem.1 hdisjoint j i (by omega) (by omega) hji
  apply (hpart (Nat.lt_trans hji hi)).mismatches hm
  intro hkind'
  exact hpair hkind' hkind

end ColumnScan
