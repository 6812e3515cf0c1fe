import ColumnScan.Proofs.Value.Order

/-!
# Fingerprints and the order

A fingerprint tells apart exactly what the order tells apart, and kinds have names that are as different
as their ranks are. So native and stored values are keys, of a table in order and of a hash table alike.
Main statement: `keyed_values`.
-/

namespace ColumnScan

/-- What makes values keys, of a table in order and of a hash table alike: a total order, null first and
different kinds by kind, with fingerprints that tell apart what the order does. -/
structure Keyed {α : Type} (cmp : α → α → Ordering) (kindName : α → String) (rank : α → Nat)
    (null : α) (fingerprint : α → List Mark) : Prop where
  refl : ∀ a, cmp a a = .eq
  swap : ∀ a b, cmp b a = (cmp a b).swap
  isLE_trans : ∀ a b c, (cmp a b).isLE → (cmp b c).isLE → (cmp a c).isLE
  null_lt : ∀ a, a ≠ null → cmp null a = .lt
  kind_iff : ∀ a b, kindName a = kindName b ↔ rank a = rank b
  of_kind_ne : ∀ a b, kindName a ≠ kindName b → cmp a b = compare (rank a) (rank b)
  fingerprint_iff : ∀ a b, fingerprint a = fingerprint b ↔ cmp a b = .eq

/-- Names that are listed by rank are as different as the ranks are. -/
theorem kindName_eq_iff_of_getElem? {α : Type} {kindName : α → String} {rank : α → Nat}
    {names : List String} (hnodup : names.Nodup)
    (h : ∀ a, names[rank a]? = some (kindName a)) (a b : α) :
    kindName a = kindName b ↔ rank a = rank b := by
  obtain ⟨ha, _⟩ := List.getElem?_eq_some_iff.1 (h a)
  rw [← List.getElem?_inj ha hnodup, h, h, Option.some.injEq]

/-- Values that are keys one by one, by kinds that are listed by rank and with null as the first kind, are
keys. -/
theorem ByKind.keyed {α : Type} {cmp : α → α → Ordering} {kindName : α → String} {rank : α → Nat}
    {null : α} {fingerprint : α → List Mark} {names : List String}
    (K : ByKind rank cmp fingerprint) (hkeys : ∀ a, KeyAt cmp fingerprint a) (hnodup : names.Nodup)
    (hnames : ∀ a, names[rank a]? = some (kindName a)) (hzero : rank null = 0)
    (hnull : ∀ a, rank a = 0 → a = null) : Keyed cmp kindName rank null fingerprint := by
  have hkind := kindName_eq_iff_of_getElem? hnodup hnames
  have htrans := transCmp_of_lawfulAt fun a => (hkeys a).lawful
  refine
    { refl := fun _ => Std.ReflCmp.compare_self
      swap := fun _ _ => Std.OrientedCmp.eq_swap
      isLE_trans := fun _ _ _ => Std.TransCmp.isLE_trans
      null_lt := fun a ha => ?_
      kind_iff := hkind
      of_kind_ne := fun a b h => K.cmp_of_rank_ne a b fun heq => h ((hkind a b).2 heq)
      fingerprint_iff := fun a b => (hkeys a).marks_eq_iff b }
  have hlt : rank null < rank a := by
    rw [hzero]
    exact Nat.pos_of_ne_zero fun h => ha (hnull a h)
  rw [K.cmp_of_rank_ne null a hlt.ne]
  exact Nat.compare_eq_lt.2 hlt

namespace Native

/-- The names of the kinds in the order of the kinds. -/
def kindNames : List String :=
  ["null", "boolean", "byte", "short", "int", "long", "float", "double", "string", "binary", "date",
    "timestamp", "decimal", "list", "map"]

theorem getElem?_kindNames (a : Native) : kindNames[a.rank]? = some a.kindName := by
  cases a with
  | scalar x => cases x <;> rfl
  | _ => rfl

theorem keyed : Keyed cmp kindName rank null fingerprint :=
  byKind.keyed keyAt (by decide) getElem?_kindNames rfl fun a h => by
    cases a with
    | null => rfl
    | scalar x => grind [rank, Scalar.rank_bounds]
    | _ => cases h

end Native

namespace Stored

/-- The names of the kinds in the order of the kinds. -/
def kindNames : List String :=
  ["null", "boolean", "byte", "short", "int", "long", "float", "double", "string", "binary", "date",
    "timestamp", "decimal", "char", "varchar", "struct", "list", "map", "union"]

theorem getElem?_kindNames (a : Stored) : kindNames[a.rank]? = some a.kindName := by
  cases a with
  | scalar x => cases x <;> rfl
  | _ => rfl

theorem keyed : Keyed cmp kindName rank null fingerprint :=
  byKind.keyed keyAt (by decide) getElem?_kindNames rfl fun a h => by
    cases a with
    | null => rfl
    | scalar x => grind [rank, Scalar.rank_bounds]
    | _ => cases h

end Stored

/-- Native and stored values are keys: their orders are total and put null first and kinds in their order,
and what an order does not tell apart has the same fingerprint. -/
theorem keyed_values :
    Keyed Native.cmp Native.kindName Native.rank Native.null Native.fingerprint ∧
      Keyed Stored.cmp Stored.kindName Stored.rank Stored.null Stored.fingerprint :=
  ⟨Native.keyed, Stored.keyed⟩

end ColumnScan
