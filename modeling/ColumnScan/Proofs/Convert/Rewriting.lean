import ColumnScan.Proofs.Convert.Settled
import ColumnScan.Proofs.Value.Nodes

/-!
# Values that are written, read and written again

What one variant of a union made of a value may be taken by an earlier variant that refused the value
itself: cut text may spell a decimal, merged keys may leave entries of one kind only. So a value that
was read is written back with an earlier variant or with the same one, unless an earlier variant takes
its kind but has no room for it, which is then the failure of the whole union. Only decimals and
structs refuse values of their kind, so nothing else can go wrong. Main statements:
`Stock.storesBack` and `ConverterFactory.union_stores_back`.
-/

namespace ColumnScan

/-! ## Values without room in a column -/

/-- The time of every timestamp in the value has a count of nanoseconds in a word. -/
def Native.TimesFit (value : Native) : Prop :=
  ∀ time, .timestamp time ∈ value.nodes → ∃ nanos, time.toNanos? = some nanos

namespace Native

theorem TimesFit.of_subset {value part : Native} (h : value.TimesFit) (hpart : part.nodes ⊆ value.nodes) :
    part.TimesFit :=
  fun time hm => h time (hpart hm)

theorem timesFit_list {items : List Native} (h : ∀ item ∈ items, item.TimesFit) :
    (list items).TimesFit := by
  intro time hm
  rw [nodes, gathers_nodes.items_eq] at hm
  rcases List.mem_cons.1 hm with heq | hm
  · cases heq
  · obtain ⟨item, hitem, hm⟩ := List.mem_flatMap.1 hm
    exact h item hitem time hm

theorem timesFit_map {entries : List (Native × Native)}
    (h : ∀ entry ∈ entries, entry.1.TimesFit ∧ entry.2.TimesFit) : (map entries).TimesFit := by
  intro time hm
  rw [nodes, gathers_nodes.entries_eq] at hm
  rcases List.mem_cons.1 hm with heq | hm
  · cases heq
  · obtain ⟨entry, hentry, hm⟩ := List.mem_flatMap.1 hm
    rcases List.mem_append.1 hm with hm | hm
    · exact (h entry hentry).1 time hm
    · exact (h entry hentry).2 time hm

end Native

namespace ConvertError

/-- A value of the right kind has no room in a column of the type: a decimal has too many digits, or a
struct is given another number of values than it has fields. -/
inductive LacksRoom (type : DataType) : ConvertError → Prop where
  | decimal {precision scale : UInt8} {value : Native}
    (node : .primitive (.decimal precision scale) ∈ type.nodes) :
    LacksRoom type (.outOfRange (.native value) (.decimal precision scale))
  | struct {fields : List (Named DataType)} {actual : Nat} (node : .struct fields ∈ type.nodes)
    (other : actual ≠ fields.length) : LacksRoom type (.arity fields.length actual)

/-- In some union in the type, a variant that others come after has no room for a value. -/
def LacksRoomEarlier (type : DataType) (e : ConvertError) : Prop :=
  ∃ variants, .union variants ∈ type.nodes ∧ ∃ variant ∈ variants.dropLast, e.LacksRoom variant

variable {type part : DataType} {e : ConvertError}

theorem LacksRoom.of_subset (h : e.LacksRoom part) (hpart : part.nodes ⊆ type.nodes) :
    e.LacksRoom type := by
  cases h with
  | decimal node => exact .decimal (hpart node)
  | struct node other => exact .struct (hpart node) other

theorem LacksRoom.isMismatch (h : e.LacksRoom type) : e.isMismatch = false := by
  cases h <;> rfl

theorem LacksRoomEarlier.of_subset (h : e.LacksRoomEarlier part) (hpart : part.nodes ⊆ type.nodes) :
    e.LacksRoomEarlier type := by
  obtain ⟨variants, hvariants, hroom⟩ := h
  exact ⟨variants, hpart hvariants, hroom⟩

theorem LacksRoomEarlier.isMismatch (h : e.LacksRoomEarlier type) : e.isMismatch = false := by
  obtain ⟨_, _, _, _, hroom⟩ := h
  exact hroom.isMismatch

end ConvertError

namespace Converter

/-- The converter fails for the kind of a value or for room in a column of the type. -/
def RefusesFor (c : Converter) (type : DataType) : Prop :=
  ∀ n, n.TimesFit → FailsBy (fun e => e.isMismatch = true ∨ e.LacksRoom type) (c.toStored n)

theorem refusesFor_of_store {c : Converter} {type : DataType}
    (h : ∀ n, n.TimesFit → FailsBy (fun e => e.isMismatch = true ∨ e.LacksRoom type) (c.store n)) :
    c.RefusesFor type := by
  intro n hn
  by_cases hnull : n = .null
  · subst hnull
    exact failsBy_ok _
  · rw [toStored_of_ne_null c hnull]
    exact h n hn

theorem RefusesFor.of_subset {c : Converter} {type part : DataType} (h : c.RefusesFor part)
    (hpart : part.nodes ⊆ type.nodes) : c.RefusesFor type :=
  fun n hn e he => (h n hn e he).imp_right fun hroom => hroom.of_subset hpart

theorem refusesFor_same (kind : Kind) : (same kind).RefusesFor (.primitive kind) := by
  apply refusesFor_of_store
  intro n _
  cases n with
  | scalar x =>
    simp only [same]
    split
    · exact failsBy_ok _
    · exact failsBy_error (.inl rfl)
  | _ => exact failsBy_error (.inl rfl)

theorem refusesFor_decimal (precision scale : UInt8) :
    (decimal precision scale).RefusesFor (.primitive (.decimal precision scale)) := by
  apply refusesFor_of_store
  intro n _
  simp only [decimal]
  split
  · exact failsBy_error (.inl rfl)
  · split
    · exact failsBy_ok _
    · exact failsBy_error (.inr (.decimal (DataType.mem_nodes_self _)))

theorem refusesFor_timestamp : timestamp.RefusesFor (.primitive .timestamp) := by
  apply refusesFor_of_store
  intro n hn
  cases n with
  | timestamp t =>
    obtain ⟨nanos, hnanos⟩ := hn t List.mem_cons_self
    rw [store_timestamp_eq_ok_iff.2 ⟨nanos, hnanos, rfl⟩]
    exact failsBy_ok _
  | _ => exact failsBy_error (.inl rfl)

theorem refusesFor_ofKind (kind : Kind) : (ofKind kind).RefusesFor (.primitive kind) := by
  cases kind with
  | decimal precision scale => exact refusesFor_decimal precision scale
  | timestamp => exact refusesFor_timestamp
  | date | char | varchar =>
    apply refusesFor_of_store
    intro n _
    cases n with
    | date d => first | exact failsBy_ok _ | exact failsBy_error (.inl rfl)
    | scalar x => cases x <;> first | exact failsBy_ok _ | exact failsBy_error (.inl rfl)
    | _ => exact failsBy_error (.inl rfl)
  | _ => exact refusesFor_same _

theorem RefusesFor.struct {fields : List (Named DataType)} {cs : List Converter}
    (size : fields.length = cs.length) (h : ∀ c ∈ cs, c.RefusesFor (.struct fields)) :
    (Converter.struct cs).RefusesFor (.struct fields) := by
  apply refusesFor_of_store
  intro n hn
  cases n with
  | list vs =>
    simp only [Converter.struct]
    split
    · refine FailsBy.map _ ?_
      rw [storeEach_eq_mapM]
      apply failsBy_mapM
      intro p hp
      obtain ⟨hc, hv⟩ := List.of_mem_zip hp
      exact h p.1 hc p.2 (hn.of_subset (Native.nodes_subset_list hv))
    next hsize =>
      rw [← size] at hsize ⊢
      exact failsBy_error (.inr (.struct (DataType.mem_nodes_self _) hsize))
  | _ => exact failsBy_error (.inl rfl)

theorem RefusesFor.list {c : Converter} {element : DataType} (h : c.RefusesFor (.list element)) :
    (Converter.list c).RefusesFor (.list element) := by
  apply refusesFor_of_store
  intro n hn
  cases n with
  | list vs =>
    refine FailsBy.map _ ?_
    rw [storeAll_eq_mapM]
    apply failsBy_mapM
    intro v hv
    exact h v (hn.of_subset (Native.nodes_subset_list hv))
  | _ => exact failsBy_error (.inl rfl)

theorem failsBy_storeEntries {P : ConvertError → Prop} {key value : Converter}
    {es : List (Native × Native)}
    (h : ∀ e ∈ es, FailsBy P (key.toStored e.1) ∧ FailsBy P (value.toStored e.2)) :
    FailsBy P (storeEntries key value es) := by
  rw [storeEntries_eq_mapM]
  apply failsBy_mapM
  intro e he
  obtain ⟨hkey, hvalue⟩ := h e he
  exact hkey.bind fun _ => hvalue.bind fun _ => failsBy_ok _

theorem RefusesFor.map {key value : Converter} {type : DataType} (hkey : key.RefusesFor type)
    (hvalue : value.RefusesFor type) : (Converter.map key value).RefusesFor type := by
  apply refusesFor_of_store
  intro n hn
  cases n with
  | map es =>
    refine FailsBy.map _ (failsBy_storeEntries fun e he => ?_)
    obtain ⟨hk, hv⟩ := Native.nodes_subset_map he
    exact ⟨hkey e.1 (hn.of_subset hk), hvalue e.2 (hn.of_subset hv)⟩
  | _ => exact failsBy_error (.inl rfl)

/-- A union fails because every variant refuses the kind of the value, or as the first variant fails
that does not. -/
theorem storeVariant_eq_error {value : Native} {cs : List Converter} {tag : Nat} {e : ConvertError}
    (h : storeVariant value tag cs = .error e) :
    (e.isMismatch = true ∧ ∀ i c, cs[i]? = some c → tag + i ≤ 255 → c.Mismatches value) ∨
      e.isMismatch = false ∧ ∃ i c, cs[i]? = some c ∧ (∀ d ∈ cs.take i, d.Mismatches value) ∧
        c.toStored value = .error e := by
  induction cs generalizing tag with
  | nil =>
    cases h
    exact .inl ⟨rfl, fun i c hc => by simp at hc⟩
  | cons c cs ih =>
    rw [storeVariant] at h
    split at h
    next htag =>
      cases h
      exact .inl ⟨rfl, fun i _ _ hle => by omega⟩
    next htag =>
      split at h
      next => cases h
      next e' he' =>
        split at h
        next hm =>
          -- The first variant refuses the kind, so the others decide.
          have hfirst : c.Mismatches value := ⟨e', he', hm⟩
          rcases ih h with ⟨hm, hall⟩ | ⟨hm, i, d, hd, hbefore, hfail⟩
          · refine .inl ⟨hm, fun i d hd hle => ?_⟩
            cases i with
            | zero =>
              obtain rfl : c = d := by simpa using hd
              exact hfirst
            | succ i => exact hall i d hd (by omega)
          · refine .inr ⟨hm, i + 1, d, hd, ?_, hfail⟩
            rw [List.take_succ_cons, List.forall_mem_cons]
            exact ⟨hfirst, hbefore⟩
        next hm =>
          cases h
          exact .inr ⟨Bool.eq_false_iff.2 hm, 0, c, rfl, List.forall_mem_nil _, he'⟩

theorem RefusesFor.union {cs : List Converter} {type : DataType} (h : ∀ c ∈ cs, c.RefusesFor type) :
    (Converter.union cs).RefusesFor type := by
  apply refusesFor_of_store
  intro n hn e he
  rcases storeVariant_eq_error he with ⟨hm, _⟩ | ⟨_, i, c, hc, _, hfail⟩
  · exact .inl hm
  · exact h c (List.mem_of_getElem? hc) n hn e hfail

end Converter

theorem Stock.refusesFor {type : DataType} {c : Converter} (h : Stock type c) : c.RefusesFor type := by
  induction h with
  | primitive kind => exact Converter.refusesFor_ofKind kind
  | struct size _ ih =>
    apply Converter.RefusesFor.struct size
    intro c hc
    obtain ⟨field, hfield, hpart⟩ := exists_mem_zip size hc
    exact (ih (field, c) hpart).of_subset (DataType.nodes_subset_struct hfield)
  | list _ ih => exact (ih.of_subset (DataType.nodes_subset_list _)).list
  | @map key value _ _ _ _ ihk ihv =>
    obtain ⟨hkey, hvalue⟩ := DataType.nodes_subset_map key value
    exact (ihk.of_subset hkey).map (ihv.of_subset hvalue)
  | union size _ ih =>
    apply Converter.RefusesFor.union
    intro c hc
    obtain ⟨type, htype, hpart⟩ := exists_mem_zip size hc
    exact (ih (type, c) hpart).of_subset (DataType.nodes_subset_union htype)

/-! ## Storing what was restored -/

namespace Converter

/-- What is stored can be restored, as null only if it was null; and what it is restored as can be
stored again, or fails for a reason of this sort. -/
def StoresBack (c : Converter) (P : ConvertError → Prop) : Prop :=
  ∀ n s, c.toStored n = .ok s → ∃ m, c.toNative s = .ok m ∧ m.TimesFit ∧ (m = .null → n = .null) ∧
    FailsBy P (c.toStored m)

variable {P : ConvertError → Prop}

theorem StoresBack.mono {Q : ConvertError → Prop} {c : Converter} (h : c.StoresBack P)
    (hPQ : ∀ e, P e → Q e) : c.StoresBack Q := by
  intro n s hs
  obtain ⟨m, hm, hfit, hnull, hfails⟩ := h n s hs
  exact ⟨m, hm, hfit, hnull, fun e he => hPQ e (hfails e he)⟩

theorem storesBack_of_store {c : Converter}
    (h : ∀ n s, n ≠ .null → c.store n = .ok s → s ≠ .null ∧ ∃ m, m ≠ .null ∧ c.restore s = .ok m ∧
      m.TimesFit ∧ FailsBy P (c.store m)) : c.StoresBack P := by
  intro n s hs
  by_cases hn : n = .null
  · subst hn
    cases hs
    refine ⟨.null, rfl, ?_, fun _ => rfl, failsBy_ok _⟩
    intro time hm
    cases List.mem_singleton.1 hm
  · rw [toStored_of_ne_null c hn] at hs
    obtain ⟨hs', m, hm, hr, hfit, hfails⟩ := h n s hn hs
    refine ⟨m, by rw [toNative_of_ne_null c hs', hr], hfit, fun hnull => absurd hnull hm, ?_⟩
    rw [toStored_of_ne_null c hm]
    exact hfails

/-- Of scalars, only times that have a count of nanoseconds in a word are stored. -/
theorem timesFit_of_toStored_ofKind {kind : Kind} {m : Native} {s : Stored}
    (h : (ofKind kind).toStored m = .ok s) : m.TimesFit := by
  intro time hm
  cases m with
  | timestamp t =>
    cases List.mem_singleton.1 hm
    cases kind with
    | timestamp =>
      obtain ⟨nanos, hnanos, -⟩ := store_timestamp_eq_ok_iff.1 h
      exact ⟨nanos, hnanos⟩
    | _ => cases h
  | list | map => cases kind <;> cases h
  | _ => cases List.mem_singleton.1 hm

theorem storesBack_ofKind (kind : Kind) : (ofKind kind).StoresBack P := by
  intro n s hs
  obtain ⟨m, hm, hagain⟩ := settles_ofKind kind n s hs
  refine ⟨m, hm, timesFit_of_toStored_ofKind hagain, ?_, ?_⟩
  · rintro rfl
    cases hagain
    by_contra hn
    rw [toStored_of_ne_null _ hn] at hs
    exact keepsNull_ofKind kind n hs
  · rw [hagain]
    exact failsBy_ok s

/-- What holds of a part that is stored back, and is asked of all parts of a composite. -/
def BackPart (c : Converter) (P : ConvertError → Prop) (m : Native) : Prop :=
  m.TimesFit ∧ FailsBy P (c.toStored m)

theorem StoresBack.part {c : Converter} (h : c.StoresBack P) (n : Native) (s : Stored)
    (hs : c.toStored n = .ok s) : ∃ m, c.toNative s = .ok m ∧ c.BackPart P m := by
  obtain ⟨m, hm, hfit, _, hfails⟩ := h n s hs
  exact ⟨m, hm, hfit, hfails⟩

theorem StoresBack.struct {cs : List Converter} (h : ∀ c ∈ cs, c.StoresBack P) :
    (Converter.struct cs).StoresBack P := by
  apply storesBack_of_store
  intro n s _ hs
  cases n with
  | list vs =>
    obtain ⟨ss, ws, rfl, hrestored, hsize, hback⟩ :=
      exists_restored_struct (R := fun c w _ => c.BackPart P w) (fun c hc => (h c hc).part) hs
    have hparts : ∀ p ∈ cs.zip ws, p.1.BackPart P p.2 := by
      intro p hp
      obtain ⟨_, _, hpart⟩ := exists_mem_of_forall₂ hback p hp
      exact hpart
    refine ⟨Stored.noConfusion, .list ws, Native.noConfusion, hrestored, ?_, ?_⟩
    · apply Native.timesFit_list
      intro w hw
      obtain ⟨c, _, hp⟩ := exists_mem_zip hsize.symm hw
      exact (hparts (c, w) hp).1
    · simp only [Converter.struct, if_pos hsize]
      refine FailsBy.map _ ?_
      rw [storeEach_eq_mapM]
      exact failsBy_mapM fun p hp => (hparts p hp).2
  | _ => cases hs

theorem StoresBack.list {c : Converter} (h : c.StoresBack P) : (Converter.list c).StoresBack P := by
  apply storesBack_of_store
  intro n s _ hs
  cases n with
  | list vs =>
    obtain ⟨ss, ws, rfl, hrestored, hback⟩ :=
      exists_restored_list (R := fun w _ => c.BackPart P w) h.part hs
    have hitems : ∀ w ∈ ws, c.BackPart P w := by
      intro w hw
      obtain ⟨_, _, hitem⟩ := exists_mem_of_forall₂ hback w hw
      exact hitem
    refine ⟨Stored.noConfusion, .list ws, Native.noConfusion, hrestored, ?_, ?_⟩
    · exact Native.timesFit_list fun w hw => (hitems w hw).1
    · refine FailsBy.map _ ?_
      rw [storeAll_eq_mapM]
      exact failsBy_mapM fun w hw => (hitems w hw).2
  | _ => cases hs

/-- Entries may be merged again on the way back, so keys and values are followed apart here too. -/
theorem StoresBack.map {key value : Converter} (hkey : key.StoresBack P) (hvalue : value.StoresBack P) :
    (Converter.map key value).StoresBack P := by
  apply storesBack_of_store
  intro n s _ hs
  cases n with
  | map es =>
    obtain ⟨ps, fs, rfl, hrestored, hback⟩ :=
      exists_restored_map (R := fun k _ => key.BackPart P k) (S := fun v _ => value.BackPart P v)
        hkey.part hvalue.part hs
    have hparts : ∀ f ∈ Entries.ofList Native.cmp fs, key.BackPart P f.1 ∧ value.BackPart P f.2 := by
      apply Entries.forall_ofList (P := key.BackPart P) (Q := value.BackPart P)
      intro f hf
      obtain ⟨_, _, hpart⟩ := exists_mem_of_forall₂ hback f hf
      exact hpart
    refine ⟨Stored.noConfusion, Native.ofPairs fs, Native.noConfusion, hrestored, ?_, ?_⟩
    · exact Native.timesFit_map fun f hf => ⟨(hparts f hf).1.1, (hparts f hf).2.1⟩
    · refine FailsBy.map _ (failsBy_storeEntries fun f hf => ?_)
      exact ⟨(hparts f hf).1.2, (hparts f hf).2.2⟩
  | _ => cases hs

/-- A value whose kind a variant does not refuse is not left to a later variant. -/
theorem le_of_take_mismatches {value : Native} {cs : List Converter} {i j : Nat} {c : Converter}
    (hc : cs[i]? = some c) (h : ¬c.Mismatches value) (hbefore : ∀ d ∈ cs.take j, d.Mismatches value) :
    j ≤ i := by
  by_contra hlt
  have htake : (cs.take j)[i]? = some c := by
    rw [List.getElem?_take_of_lt (Nat.not_le.1 hlt), hc]
  exact h (hbefore c (List.mem_of_getElem? htake))

end Converter

namespace Stock

variable {variants : List DataType} {cs : List Converter}

/-- A value whose kind a variant takes is stored with that variant or an earlier one, unless that variant
fails to store it or an earlier one has no room for it. -/
theorem store_union_cases (size : variants.length = cs.length)
    (parts : ∀ p ∈ variants.zip cs, Stock p.1 p.2) {m : Native} (hfit : m.TimesFit) {i : Nat}
    {c : Converter} {variant : DataType} (hvariant : variants[i]? = some variant)
    (hc : cs[i]? = some c) (hle : i ≤ 255)
    (hfails : FailsBy (·.LacksRoomEarlier variant) (c.toStored m)) :
    (∃ j t, j ≤ i ∧ (Converter.union cs).store m = .ok (.union j.toUInt8 t)) ∨
      ∃ e, (Converter.union cs).store m = .error e ∧ e.LacksRoomEarlier (.union variants) := by
  have htakes : ¬c.Mismatches m := by
    rintro ⟨e, he, hm⟩
    rw [(hfails e he).isMismatch] at hm
    cases hm
  cases hstore : (Converter.union cs).store m with
  | ok s =>
    obtain ⟨j, _, t, _, _, hbefore, _, rfl⟩ := Converter.store_union_eq_ok_iff.1 hstore
    exact .inl ⟨j, t, Converter.le_of_take_mismatches hc htakes hbefore, rfl⟩
  | error e =>
    refine .inr ⟨e, rfl, ?_⟩
    rcases Converter.storeVariant_eq_error hstore with ⟨_, hall⟩ | ⟨hm, j, d, hd, hbefore, hfail⟩
    · exact absurd (hall i c hc (by omega)) htakes
    · rcases Nat.lt_or_eq_of_le (Converter.le_of_take_mismatches hc htakes hbefore) with hlt | rfl
      · obtain ⟨earlier, hearlier, hpart⟩ := exists_getElem?_zip size hd
        have hroom : e.LacksRoom earlier := by
          rcases (parts _ hpart).refusesFor m hfit e hfail with hm' | hroom
          · rw [hm] at hm'
            cases hm'
          · exact hroom
        -- The variant that takes the kind comes after it.
        have hlast : earlier ∈ variants.dropLast := by
          obtain ⟨hi, _⟩ := List.getElem?_eq_some_iff.1 hvariant
          have hearlier' : variants.dropLast[j]? = some earlier := by
            rw [List.dropLast_eq_take, List.getElem?_take_of_lt (by omega), hearlier]
          exact List.mem_of_getElem? hearlier'
        exact ⟨variants, DataType.mem_nodes_self _, earlier, hlast, hroom⟩
      · rw [hc] at hd
        cases hd
        exact (hfails e hfail).of_subset
          (DataType.nodes_subset_union (List.mem_of_getElem? hvariant))

/-- What a union stored is restored, and stored with the same variant or an earlier one if every earlier
one that takes it has room for it. -/
theorem union_again (size : variants.length = cs.length)
    (parts : ∀ p ∈ variants.zip cs, Stock p.1 p.2)
    (hback : ∀ p ∈ variants.zip cs, p.2.StoresBack (·.LacksRoomEarlier p.1)) {n : Native}
    {tag : UInt8} {t : Stored} (hs : (Converter.union cs).store n = .ok (.union tag t)) :
    ∃ m, (Converter.union cs).restore (.union tag t) = .ok m ∧ m.TimesFit ∧ (m = .null → n = .null) ∧
      ((∃ tag' t', tag' ≤ tag ∧ (Converter.union cs).store m = .ok (.union tag' t')) ∨
        ∃ e, (Converter.union cs).store m = .error e ∧ e.LacksRoomEarlier (.union variants)) := by
  obtain ⟨i, c, _, hc, hle, _, ht, heq⟩ := Converter.store_union_eq_ok_iff.1 hs
  cases heq
  obtain ⟨variant, hvariant, hpart⟩ := exists_getElem?_zip size hc
  obtain ⟨m, hm, hfit, hnull, hfails⟩ := hback _ hpart n t ht
  refine ⟨m, (Converter.restore_union hc hle t).trans hm, hfit, hnull, ?_⟩
  refine (store_union_cases size parts hfit hvariant hc hle hfails).imp_left ?_
  rintro ⟨j, t', hji, hagain⟩
  refine ⟨j.toUInt8, t', ?_, hagain⟩
  rw [UInt8.le_iff_toNat_le]
  simp only [Nat.toUInt8_eq, UInt8.toNat_ofNat']
  omega

theorem storesBack {type : DataType} {c : Converter} (h : Stock type c) :
    c.StoresBack (·.LacksRoomEarlier type) := by
  induction h with
  | primitive kind => exact Converter.storesBack_ofKind kind
  | struct size _ ih =>
    apply Converter.StoresBack.struct
    intro c hc
    obtain ⟨field, hfield, hpart⟩ := exists_mem_zip size hc
    exact (ih (field, c) hpart).mono fun e he => he.of_subset (DataType.nodes_subset_struct hfield)
  | list _ ih =>
    exact Converter.StoresBack.list (ih.mono fun e he => he.of_subset (DataType.nodes_subset_list _))
  | @map key value _ _ _ _ ihk ihv =>
    obtain ⟨hkey, hvalue⟩ := DataType.nodes_subset_map key value
    exact Converter.StoresBack.map (ihk.mono fun e he => he.of_subset hkey)
      (ihv.mono fun e he => he.of_subset hvalue)
  | union size parts ih =>
    apply Converter.storesBack_of_store
    intro n s hn hs
    obtain ⟨_, _, t, _, _, _, _, rfl⟩ := Converter.store_union_eq_ok_iff.1 hs
    obtain ⟨m, hm, hfit, hnull, hagain⟩ := union_again size parts ih hs
    refine ⟨Stored.noConfusion, m, fun heq => hn (hnull heq), hm, hfit, ?_⟩
    rcases hagain with ⟨_, _, _, hagain⟩ | ⟨e, hagain, hroom⟩
    · rw [hagain]
      exact failsBy_ok _
    · rw [hagain]
      exact failsBy_error hroom

end Stock

/-- No variant before the last one of a union in the type has a decimal or a struct in it. -/
def DataType.RoomyEarlier (type : DataType) : Prop :=
  ∀ variants, .union variants ∈ type.nodes → ∀ variant ∈ variants.dropLast,
    (∀ precision scale, .primitive (.decimal precision scale) ∉ variant.nodes) ∧
      ∀ fields, .struct fields ∉ variant.nodes

theorem DataType.RoomyEarlier.not_lacksRoomEarlier {type : DataType} (h : type.RoomyEarlier)
    (e : ConvertError) : ¬e.LacksRoomEarlier type := by
  rintro ⟨variants, hvariants, variant, hvariant, hroom⟩
  obtain ⟨hdecimal, hstruct⟩ := h variants hvariants variant hvariant
  cases hroom with
  | decimal node => exact hdecimal _ _ node
  | struct node _ => exact hstruct _ node

namespace ConverterFactory

/-- Whatever a union stores is restored, and is then stored with the same variant or an earlier one,
unless a variant before the last, of this union or of one in it, has no room for a decimal or a struct
whose kind it takes. Without decimals and structs in such variants it is always stored. -/
theorem union_stores_back {variants : List DataType}
    (valid : (DataType.union variants).validate = .ok ()) :
    ∃ c, stock.build (.union variants) = .ok c ∧ ∀ value tag part,
      c.toStored value = .ok (.union tag part) → ∃ back, c.toNative (.union tag part) = .ok back ∧
        ((∃ tag' part', tag' ≤ tag ∧ c.toStored back = .ok (.union tag' part')) ∨
          ∃ e, c.toStored back = .error e ∧ e.LacksRoomEarlier (.union variants)) ∧
        ((DataType.union variants).RoomyEarlier →
          ∃ tag' part', tag' ≤ tag ∧ c.toStored back = .ok (.union tag' part')) := by
  obtain ⟨c, hc⟩ := exists_build_of_validate valid
  refine ⟨c, hc, fun value tag part hstored => ?_⟩
  cases stock_of_build hc with
  | @union _ cs size parts =>
    have hvalue : value ≠ .null := by
      rintro rfl
      cases hstored
    rw [Converter.toStored_of_ne_null _ hvalue] at hstored
    obtain ⟨back, hback, _, hnull, hagain⟩ :=
      Stock.union_again size parts (fun p hp => (parts p hp).storesBack) hstored
    have hback' : back ≠ .null := fun heq => hvalue (hnull heq)
    rw [← Converter.toStored_of_ne_null _ hback'] at hagain
    refine ⟨back, hback, hagain, fun hroomy => hagain.resolve_right ?_⟩
    rintro ⟨e, _, hroom⟩
    exact hroomy.not_lacksRoomEarlier e hroom

/-- Numbers by name, or texts and numbers by their first letter. -/
def numbersOrTexts : List DataType :=
  [.map (.primitive .string) (.primitive .int),
    .map (.primitive (.char 1)) (.union [.primitive .string, .primitive .int])]

/-- The text is lost when its key is cut, so the map that is read has only numbers. -/
def textAndNumber : Native :=
  .map [(.scalar (.string "ab"), .scalar (.string "x")), (.scalar (.string "ac"), .scalar (.int 7))]

theorem union_stores_back_textAndNumber :
    ∃ c back, stock.build (.union numbersOrTexts) = .ok c ∧
      c.toStored textAndNumber =
        .ok (.union 1 (.map [(.char (.cut "a" 1), .union 1 (.scalar (.int 7)))])) ∧
      c.toNative (.union 1 (.map [(.char (.cut "a" 1), .union 1 (.scalar (.int 7)))])) = .ok back ∧
      ∃ tag' part', tag' ≤ 1 ∧ c.toStored back = .ok (.union tag' part') := by
  have hroomy : (DataType.union numbersOrTexts).RoomyEarlier := by
    intro variants hv
    obtain rfl | rfl : variants = numbersOrTexts ∨ variants = [.primitive .string, .primitive .int] := by
      simpa [numbersOrTexts, DataType.nodes, DataType.nodesVariants] using hv
    · simp [numbersOrTexts, DataType.nodes]
    · simp [DataType.nodes]
  have hcut : BoundedText.cut "ab" 1 = BoundedText.cut "a" 1 := by decide +kernel
  have hcut' : BoundedText.cut "ac" 1 = BoundedText.cut "a" 1 := by decide +kernel
  obtain ⟨c, hc, h⟩ := @union_stores_back numbersOrTexts rfl
  cases hc
  have hstored : (Converter.union [.map (.ofKind .string) (.ofKind .int),
      .map (.ofKind (.char 1)) (.union [.ofKind .string, .ofKind .int])]).toStored textAndNumber =
        .ok (.union 1 (.map [(.char (.cut "a" 1), .union 1 (.scalar (.int 7)))])) := by
    simp [Converter.toStored, Converter.union, Converter.storeVariant, Converter.ofKind, Converter.map,
      Converter.storeEntries, Converter.refuseNative, Converter.char, Converter.same, Converter.holds,
      ConvertError.isMismatch, bind, Except.bind, pure, Except.pure, Except.map, Stored.ofPairs,
      Entries.ofList, Entries.insert, textAndNumber, hcut, hcut', Std.ReflCmp.compare_self]
  obtain ⟨back, hback, _, hagain⟩ := h _ _ _ hstored
  exact ⟨_, back, rfl, hstored, hback, hagain hroomy⟩

/-- Amounts of two digits, one of them a place, or codes of two characters. -/
def amountOrCode : List DataType := [.primitive (.decimal 2 1), .primitive (.char 2)]

/-- Rows of one number by name, or texts and lists by their first letter. -/
def rowsOrLists : List DataType :=
  [.map (.primitive .string) (.struct [⟨"n", .primitive .int⟩]),
    .map (.primitive (.char 1)) (.union [.primitive .string, .list (.primitive .int)])]

/-- What is read is not always written again. Text that spells no number may be cut to one that has too
many digits for an earlier variant, and keys that are cut may leave only entries of a kind that an
earlier variant takes, with a list of the wrong size among them. -/
theorem exists_not_stored_again :
    (∃ c part back, (DataType.union amountOrCode).validate = .ok () ∧
      stock.build (.union amountOrCode) = .ok c ∧
      c.toStored (.scalar (.string "12x")) = .ok (.union 1 part) ∧
      c.toNative (.union 1 part) = .ok back ∧
      c.toStored back = .error (.outOfRange (.native back) (.decimal 2 1))) ∧
    ∃ c part back, (DataType.union rowsOrLists).validate = .ok () ∧
      stock.build (.union rowsOrLists) = .ok c ∧
      c.toStored (.map [(.scalar (.string "ab"), .scalar (.string "x")),
        (.scalar (.string "ac"), .list [.scalar (.int 1), .scalar (.int 2)])]) =
          .ok (.union 1 part) ∧
      c.toNative (.union 1 part) = .ok back ∧ c.toStored back = .error (.arity 1 2) := by
  constructor
  · have hword : Converter.decimalOf? (.scalar (.string "12x")) = none := by decide +kernel
    have hcut : BoundedText.cut "12x" 2 = BoundedText.cut "12" 2 := by decide +kernel
    have hvalue : (BoundedText.cut "12" 2).value = "12" := by decide +kernel
    have hread : Converter.decimalOf? (.scalar (.string "12")) =
        some ⟨12, 0, by decide, by decide⟩ := by decide +kernel
    have hfit : Converter.fitDecimal? 2 1 ⟨12, 0, by decide, by decide⟩ = none := by decide +kernel
    refine ⟨_, .char (.cut "12" 2), _, rfl, rfl, ?_, rfl, ?_⟩
    · simp [Converter.toStored, Converter.union, Converter.storeVariant, Converter.ofKind,
        Converter.decimal, Converter.char, Converter.refuseNative, ConvertError.isMismatch, hword, hcut]
    · simp [Converter.toStored, Converter.union, Converter.storeVariant, Converter.ofKind,
        Converter.decimal, ConvertError.isMismatch, hvalue, hread, hfit]
  · have hcut : BoundedText.cut "ab" 1 = BoundedText.cut "a" 1 := by decide +kernel
    have hcut' : BoundedText.cut "ac" 1 = BoundedText.cut "a" 1 := by decide +kernel
    refine ⟨_, .map [(.char (.cut "a" 1), .union 1 (.list [.scalar (.int 1), .scalar (.int 2)]))], _,
      rfl, rfl, ?_, rfl, rfl⟩
    simp [Converter.toStored, Converter.union, Converter.storeVariant, Converter.ofKind, Converter.map,
      Converter.storeEntries, Converter.struct, Converter.refuseNative, Converter.char, Converter.same,
      Converter.holds, Converter.list, Converter.storeAll, ConvertError.isMismatch, bind, Except.bind,
      pure, Except.pure, Except.map, Stored.ofPairs, Entries.ofList, Entries.insert, hcut, hcut',
      Std.ReflCmp.compare_self]

end ConverterFactory

end ColumnScan
