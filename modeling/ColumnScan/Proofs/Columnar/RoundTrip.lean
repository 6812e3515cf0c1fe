import ColumnScan.Proofs.Columnar.Fitting
import ColumnScan.Proofs.Columnar.Returning
import ColumnScan.Proofs.Value.Entries
import ColumnScan.Proofs.Value.Order

/-!
# Values through a column and back

Whatever fits a column comes back from it as a value that comes back unchanged from then on, and a value
that conforms to the type comes back unchanged the first time. What comes back fits again, but for one
thing: a null of any variant of a union comes back as null, which goes to the first variant, and that
one need not take it. Main statement: `Fits.exists_lands`.
-/

namespace ColumnScan

/-- A column of the type has a place for null. A union keeps null in its first variant, and a struct
keeps null in its fields besides. -/
inductive DataType.TakesNull : DataType → Prop where
  | primitive (kind : Kind) : TakesNull (.primitive kind)
  | struct {fields : List (Named DataType)} (parts : ∀ field ∈ fields, TakesNull field.type) :
    TakesNull (.struct fields)
  | list (element : DataType) : TakesNull (.list element)
  | map (key value : DataType) : TakesNull (.map key value)
  | union {first : DataType} {rest : List DataType} (part : TakesNull first) :
    TakesNull (.union (first :: rest))

/-- The first variant of every union inside the type takes null. -/
inductive DataType.FirstTakesNull : DataType → Prop where
  | primitive (kind : Kind) : FirstTakesNull (.primitive kind)
  | struct {fields : List (Named DataType)} (parts : ∀ field ∈ fields, FirstTakesNull field.type) :
    FirstTakesNull (.struct fields)
  | list {element : DataType} (part : FirstTakesNull element) : FirstTakesNull (.list element)
  | map {key value : DataType} (keys : FirstTakesNull key) (values : FirstTakesNull value) :
    FirstTakesNull (.map key value)
  | union {variants : List DataType} (first : ∀ first ∈ variants.head?, first.TakesNull)
    (parts : ∀ variant ∈ variants, FirstTakesNull variant) : FirstTakesNull (.union variants)

namespace DataType

mutual

/-- A union in a valid type has a first variant, which is a valid type. -/
theorem takesNull_of_validate {type : DataType} (h : type.validate = .ok ()) :
    type.TakesNull ∧ type.FirstTakesNull := by
  cases type with
  | primitive kind => exact ⟨.primitive kind, .primitive kind⟩
  | struct fields =>
    have hfields := takesNull_of_validateFields h
    exact ⟨.struct fun field hmem => (hfields field hmem).1,
      .struct fun field hmem => (hfields field hmem).2⟩
  | list element =>
    have hpart : element.validate = .ok () := h
    exact ⟨.list element, .list (takesNull_of_validate hpart).2⟩
  | map key value =>
    obtain ⟨hkey, hvalue⟩ := andThen_eq_ok_iff.1 h
    exact ⟨.map key value, .map (takesNull_of_validate hkey).2 (takesNull_of_validate hvalue).2⟩
  | union variants =>
    obtain ⟨hcount, hvariants⟩ := andThen_eq_ok_iff.1 h
    have hparts := takesNull_of_validateVariants hvariants
    cases variants with
    | nil => cases hcount
    | cons first rest =>
      obtain ⟨hfirst, _⟩ := hparts first List.mem_cons_self
      refine ⟨.union hfirst, .union (fun head hhead => ?_) fun variant hmem => (hparts variant hmem).2⟩
      obtain rfl : first = head := Option.some.inj hhead
      exact hfirst

theorem takesNull_of_validateVariants {variants : List DataType}
    (h : validateVariants variants = .ok ()) :
    ∀ variant ∈ variants, variant.TakesNull ∧ variant.FirstTakesNull := by
  cases variants with
  | nil => nofun
  | cons first rest =>
    obtain ⟨hfirst, hrest⟩ := andThen_eq_ok_iff.1 h
    exact List.forall_mem_cons.2
      ⟨takesNull_of_validate hfirst, takesNull_of_validateVariants hrest⟩

theorem takesNull_of_validateFields {fields : List (Named DataType)}
    (h : validateFields fields = .ok ()) :
    ∀ field ∈ fields, field.type.TakesNull ∧ field.type.FirstTakesNull := by
  cases fields with
  | nil => nofun
  | cons first rest =>
    obtain ⟨_, type⟩ := first
    obtain ⟨hfirst, hrest⟩ := andThen_eq_ok_iff.1 h
    have hfirst : type.validate = .ok () := hfirst
    exact List.forall_mem_cons.2 ⟨takesNull_of_validate hfirst, takesNull_of_validateFields hrest⟩

end

end DataType

namespace Columnar

/-! ## Types of columns -/

/-- Some column of the type is taken. -/
def Taken (type : DataType) : Prop := ∃ path values, check path values type = .ok ()

theorem Taken.struct {fields : List (Named DataType)} (h : Taken (.struct fields)) :
    ∀ field ∈ fields, Taken field.type := by
  obtain ⟨path, values, h⟩ := h
  have hfields := (check_struct_iff.1 h).2.2
  clear h
  generalize 0 = index at hfields
  induction fields generalizing index with
  | nil => nofun
  | cons first rest ih =>
    obtain ⟨hfirst, hrest⟩ := checkFields_cons_iff.1 hfields
    exact List.forall_mem_cons.2 ⟨⟨_, _, hfirst⟩, ih (index + 1) hrest⟩

theorem Taken.list {element : DataType} (h : Taken (.list element)) : Taken element :=
  let ⟨_, _, h⟩ := h
  ⟨_, _, (check_list_iff.1 h).2⟩

theorem Taken.map {key value : DataType} (h : Taken (.map key value)) : Taken key ∧ Taken value :=
  let ⟨_, _, h⟩ := h
  ⟨⟨_, _, (check_map_iff.1 h).2.1⟩, ⟨_, _, (check_map_iff.1 h).2.2⟩⟩

theorem Taken.union {variants : List DataType} (h : Taken (.union variants)) :
    variants.length ≠ maxArrayVariants ∧ ∀ variant ∈ variants, Taken variant := by
  obtain ⟨path, values, h⟩ := h
  have hvariants := (check_union_iff.1 h).2.1
  refine ⟨(check_union_iff.1 h).2.2, ?_⟩
  clear h
  generalize 0 = index at hvariants
  induction variants generalizing index with
  | nil => nofun
  | cons first rest ih =>
    obtain ⟨hfirst, hrest⟩ := checkVariantValues_cons_iff.1 hvariants
    exact List.forall_mem_cons.2 ⟨⟨_, _, hfirst⟩, ih (index + 1) hrest⟩

/-! ## Null -/

theorem encode_null_primitive (kind : Kind) : encode (.primitive kind) .null = .null :=
  congrArg (Option.getD · Datum.null) (encodeScalar?_null kind)

theorem eq_null_of_isNull {v : Stored} (h : v.isNull = true) : v = .null := by
  cases v <;> first | rfl | cases h

/-- Null comes back as null from every column that takes it. -/
theorem fits_and_returns_null {type : DataType} (h : type.TakesNull) (taken : Taken type) :
    Fits type .null ∧ Returns type .null .null := by
  induction h with
  | primitive kind =>
    exact ⟨.scalar rfl, returns_null (encode_null_primitive kind)⟩
  | struct _ ih =>
    refine ⟨.struct rfl fun i field hfield => ?_, returns_null rfl⟩
    have hmem := List.mem_of_getElem? hfield
    exact (ih field hmem (taken.struct field hmem)).1
  | list element => exact ⟨.list rfl (List.forall_mem_nil _), returns_null rfl⟩
  | map key value =>
    have hfits : Fits (.map key value) .null :=
      .map rfl (List.forall_mem_nil _) (List.forall_mem_nil _) (List.forall_mem_nil _)
    exact ⟨hfits, returns_null rfl⟩
  | @union first rest _ ih =>
    obtain ⟨hroom, htaken⟩ := taken.union
    obtain ⟨hfits, hreturns⟩ := ih (htaken first List.mem_cons_self)
    have hfirst : (first :: rest)[(partOf .null).1]? = some first := rfl
    refine ⟨.union hroom rfl fun variant hvariant => ?_, Returns.union hroom hfirst hreturns⟩
    obtain rfl : first = variant := Option.some.inj hvariant
    exact hfits

theorem unionOf_of_isNull {v : Stored} (h : v.isNull = false) (id : Nat) :
    unionOf id v = .union id.toUInt8 v := by
  rw [unionOf, h]
  rfl

theorem unionOf_toNat {v : Stored} (h : v.isNull = false) (tag : UInt8) :
    unionOf tag.toNat v = .union tag v := by
  rw [unionOf_of_isNull h]
  exact congrArg (Stored.union · v) UInt8.ofNat_toNat

theorem toNat_partOf (v : Stored) : (partOf v).1.toUInt8.toNat = (partOf v).1 := by
  cases v with
  | union tag value => exact congrArg UInt8.toNat UInt8.ofNat_toNat
  | _ => rfl

/-- A value of a variant, other than null, comes back in the union if it does on its own. -/
theorem fits_and_returns_union {variants : List DataType} {variant : DataType} {tag : UInt8}
    {w : Stored} (room : variants.length ≠ maxArrayVariants)
    (named : variants[tag.toNat]? = some variant) (notNull : w.isNull = false)
    (h : Fits variant w ∧ Returns variant w w) :
    Fits (.union variants) (.union tag w) ∧
      Returns (.union variants) (.union tag w) (.union tag w) := by
  have hreturns := Returns.union (v := .union tag w) room named h.2
  rw [partOf, unionOf_toNat notNull] at hreturns
  have hform : isNoVariant variants.length (.union tag w) = false := by
    rw [isNoVariant, decide_eq_false_iff_not, Nat.not_le]
    exact (List.getElem?_eq_some_iff.1 named).1
  refine ⟨.union room hform fun variant' hvariant => ?_, hreturns⟩
  obtain rfl := Option.some.inj (named.symm.trans hvariant)
  exact h.1

/-! ## Values -/

/-- The value `v` comes back from a column as the value `w`, which comes back as itself. -/
structure Lands (type : DataType) (v w : Stored) : Prop where
  returns : Returns type v w
  solid : isHollow v = false → isHollow w = false
  same : Conforms type v → v = w
  again : Taken type → type.FirstTakesNull → Fits type w ∧ Returns type w w

theorem lands_null {type : DataType} (fits : Fits type .null) (h : encode type .null = .null) :
    Lands type .null .null where
  returns := returns_null h
  solid := id
  same _ := rfl
  again _ _ := ⟨fits, returns_null h⟩

theorem exists_lands_scalar {kind : Kind} {v : Stored} (form : isMisfit kind v = false) :
    ∃ w, Lands (.primitive kind) v w := by
  by_cases hnull : v.isNull
  · obtain rfl := eq_null_of_isNull hnull
    exact ⟨.null, lands_null (.scalar form) (encode_null_primitive kind)⟩
  · rw [isMisfit, Bool.eq_false_iff.2 hnull, Bool.not_false, Bool.true_and,
      Option.isNone_eq_false_iff] at form
    obtain ⟨d, hd⟩ := Option.isSome_iff_exists.1 form
    obtain ⟨w, hread, ⟨e, he, hreadAgain⟩, hsame⟩ := exists_decodeScalar hd
    have hfits : Fits (.primitive kind) w := by
      refine .scalar ?_
      rw [isMisfit, he]
      exact Bool.and_false _
    refine ⟨w, returns_of_decodeScalar hd hread, fun _ => (isHollow_of_encodeScalar? he).1, ?_,
      fun _ _ => ⟨hfits, returns_of_decodeScalar he hreadAgain⟩⟩
    intro conforms
    cases conforms with
    | null => exact absurd rfl hnull
    | scalar admits => exact hsame admits

theorem exists_lands_struct {fields : List (Named DataType)} {v : Stored}
    (fits : Fits (.struct fields) v) (form : isNoStruct v = false)
    (ih : ∀ i field, fields[i]? = some field → ∃ w, Lands field.type (childAt i v) w) :
    ∃ w, Lands (.struct fields) v w := by
  cases v with
  | null => exact ⟨.null, lands_null fits rfl⟩
  | struct children =>
    obtain ⟨ws, hsize, hws⟩ := exists_getElem?_of_forall ih
    refine ⟨.struct ws, ?_, fun _ => rfl, ?_, ?_⟩
    · exact .struct rfl hsize fun i field w hfield hw => (hws i field w hfield hw).returns
    · intro conforms
      cases conforms with
      | struct size parts =>
        congr 1
        apply List.ext_getElem (size.symm.trans hsize.symm)
        intro i hc hw
        have hc : children[i]? = some children[i] := List.getElem?_eq_getElem hc
        obtain ⟨field, hfield, hmem⟩ := exists_getElem?_zip size hc
        have hlands := hws i field ws[i] hfield (List.getElem?_eq_getElem hw)
        rw [childAt, hc, Option.getD_some] at hlands
        exact hlands.same (parts (field, children[i]) hmem)
    · intro taken hnulls
      cases hnulls with
      | struct nulls =>
        have hagain : ∀ i field w, fields[i]? = some field → ws[i]? = some w →
            Fits field.type (childAt i (.struct ws)) ∧
              Returns field.type (childAt i (.struct ws)) w := by
          intro i field w hfield hw
          have hmem := List.mem_of_getElem? hfield
          rw [childAt, hw, Option.getD_some]
          exact (hws i field w hfield hw).again (taken.struct field hmem) (nulls field hmem)
        constructor
        · refine .struct rfl fun i field hfield => ?_
          obtain ⟨hi, _⟩ := List.getElem?_eq_some_iff.1 hfield
          exact (hagain i field _ hfield (List.getElem?_eq_getElem (hsize.symm ▸ hi))).1
        · exact .struct rfl hsize fun i field w hfield hw => (hagain i field w hfield hw).2
  | _ => cases form

theorem exists_lands_list {element : DataType} {v : Stored} (fits : Fits (.list element) v)
    (form : isNoList v = false) (ih : ∀ item ∈ itemsIn v, ∃ w, Lands element item w) :
    ∃ w, Lands (.list element) v w := by
  cases v with
  | null => exact ⟨.null, lands_null fits rfl⟩
  | list items =>
    obtain ⟨ws, hws⟩ := exists_forall₂ ih
    refine ⟨.list ws, .list (hws.imp fun _ _ h => h.returns), fun _ => rfl, ?_, ?_⟩
    · intro conforms
      cases conforms with
      | list parts =>
        congr 1
        exact eq_of_forall₂ hws fun item hitem w h => h.same (parts item hitem)
    · intro taken hnulls
      cases hnulls with
      | list nulls =>
        have hagain : ∀ w ∈ ws, Fits element w ∧ Returns element w w := by
          intro w hw
          obtain ⟨item, _, h⟩ := exists_mem_of_forall₂ hws.flip w hw
          exact h.again taken.list nulls
        exact ⟨.list rfl fun w hw => (hagain w hw).1,
          .list (List.forall₂_same.2 fun w hw => (hagain w hw).2)⟩
  | _ => cases form

theorem exists_lands_map {key value : DataType} {v : Stored} (fits : Fits (.map key value) v)
    (form : isNoMap v = false) (solid : ∀ e ∈ entriesIn v, isHollow e.1 = false)
    (ihk : ∀ e ∈ entriesIn v, ∃ w, Lands key e.1 w)
    (ihv : ∀ e ∈ entriesIn v, ∃ w, Lands value e.2 w) : ∃ w, Lands (.map key value) v w := by
  cases v with
  | null => exact ⟨.null, lands_null fits rfl⟩
  | map entries =>
    have hentries : ∀ e ∈ entries, ∃ p : Stored × Stored,
        isHollow p.1 = false ∧ Lands key e.1 p.1 ∧ Lands value e.2 p.2 := by
      intro e he
      obtain ⟨k, hk⟩ := ihk e he
      obtain ⟨v, hv⟩ := ihv e he
      exact ⟨(k, v), hk.solid (solid e he), hk, hv⟩
    obtain ⟨ps, hps⟩ := exists_forall₂ hentries
    refine ⟨Stored.ofPairs ps, .map (hps.imp fun _ _ h => ⟨h.2.1.returns, h.2.2.returns⟩), fun _ => rfl,
      ?_, ?_⟩
    · intro conforms
      cases conforms with
      | map ascending keys values =>
        obtain rfl := eq_of_forall₂ hps fun e he p h =>
          Prod.ext (h.2.1.same (keys e he)) (h.2.2.same (values e he))
        exact congrArg Stored.map (Entries.ofList_eq_of_perm (.refl _) ascending).symm
    · intro taken hnulls
      cases hnulls with
      | map keys values =>
        have hagain : ∀ p ∈ Entries.ofList Stored.cmp ps,
            (isHollow p.1 = false ∧ Fits key p.1 ∧ Returns key p.1 p.1) ∧
              Fits value p.2 ∧ Returns value p.2 p.2 := by
          apply Entries.forall_ofList (P := fun k => isHollow k = false ∧ Fits key k ∧ Returns key k k)
            (Q := fun v => Fits value v ∧ Returns value v v)
          intro p hp
          obtain ⟨e, _, hsolid, hkey, hvalue⟩ := exists_mem_of_forall₂ hps.flip p hp
          exact ⟨⟨hsolid, hkey.again taken.map.1 keys⟩, hvalue.again taken.map.2 values⟩
        -- Entries that ascend are the entries that are made of them.
        have hentries : Stored.ofPairs (Entries.ofList Stored.cmp ps) = Stored.ofPairs ps :=
          congrArg Stored.map (Entries.ofList_eq_of_perm (.refl _) (Entries.ascending_ofList ps))
        have hreturns : Returns (.map key value) (Stored.ofPairs ps)
            (Stored.ofPairs (Entries.ofList Stored.cmp ps)) :=
          .map (List.forall₂_same.2 fun p hp => ⟨(hagain p hp).1.2.2, (hagain p hp).2.2⟩)
        rw [hentries] at hreturns
        exact ⟨.map rfl (fun p hp => (hagain p hp).1.1) (fun p hp => (hagain p hp).1.2.1)
          fun p hp => (hagain p hp).2.1, hreturns⟩
  | _ => cases form

theorem exists_lands_union {variants : List DataType} {v : Stored}
    (room : variants.length ≠ maxArrayVariants) (form : isNoVariant variants.length v = false)
    (ih : ∀ variant, variants[(partOf v).1]? = some variant → ∃ w, Lands variant (partOf v).2 w) :
    ∃ w, Lands (.union variants) v w := by
  have hlt : (partOf v).1 < variants.length := by
    cases v with
    | null => exact Nat.pos_of_ne_zero (beq_eq_false_iff_ne.1 form)
    | union tag value => exact Nat.lt_of_not_le (of_decide_eq_false form)
    | _ => cases form
  obtain ⟨variant, hvariant⟩ : ∃ variant, variants[(partOf v).1]? = some variant :=
    ⟨_, List.getElem?_eq_getElem hlt⟩
  obtain ⟨w, hw⟩ := ih variant hvariant
  refine ⟨unionOf (partOf v).1 w, .union room hvariant hw.returns, ?_, ?_, ?_⟩
  · intro hv
    cases v with
    | union tag value =>
      have hsolid : isHollow w = false := hw.solid hv
      rw [unionOf_of_isNull (isNull_of_isHollow hsolid)]
      exact hsolid
    | null => cases hv
    | _ => cases form
  · intro conforms
    cases conforms with
    | null =>
      obtain rfl := hw.same (.null _)
      rfl
    | @union _ tag _ value named notNull part =>
      obtain rfl := Option.some.inj (hvariant.symm.trans named)
      have hvalue : value.isNull = false := Bool.eq_false_iff.2 fun h => notNull (eq_null_of_isNull h)
      obtain rfl := hw.same part
      exact (unionOf_toNat hvalue tag).symm
  · intro taken hnulls
    cases hnulls with
    | union first parts =>
      by_cases hnull : w.isNull
      · -- Whatever the variant was, the null is now one of the first.
        obtain rfl := eq_null_of_isNull hnull
        cases variants with
        | nil => cases hlt
        | cons head rest => exact fits_and_returns_null (.union (first head rfl)) taken
      · have hnull := Bool.eq_false_iff.2 hnull
        have hmem := List.mem_of_getElem? hvariant
        rw [unionOf_of_isNull hnull]
        rw [← toNat_partOf v] at hvariant
        exact fits_and_returns_union room hvariant hnull
          (hw.again (taken.union.2 variant hmem) (parts variant hmem))

/-- What fits a column comes back from it. -/
theorem Fits.exists_lands {type : DataType} {v : Stored} (h : Fits type v) : ∃ w, Lands type v w := by
  have hfits := h
  induction h with
  | scalar form => exact exists_lands_scalar form
  | struct form parts ih =>
    exact exists_lands_struct hfits form fun i field hfield => ih i field hfield (parts i field hfield)
  | list form parts ih =>
    exact exists_lands_list hfits form fun item hitem => ih item hitem (parts item hitem)
  | map form solid keys values ihk ihv =>
    exact exists_lands_map hfits form solid (fun e he => ihk e he (keys e he))
      fun e he => ihv e he (values e he)
  | union room form part ih =>
    exact exists_lands_union room form fun variant hvariant =>
      ih variant hvariant (part variant hvariant)

end Columnar

end ColumnScan
