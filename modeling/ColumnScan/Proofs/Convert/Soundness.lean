import ColumnScan.Proofs.Convert.Settled
import ColumnScan.Proofs.Value.Conforms
import ColumnScan.Proofs.Value.Nodes

/-!
# What is stored fits its column

Whatever a stock converter stores conforms to the type of the column, however deep the value is nested
and however it was rounded, cut or dispatched on the way; and whatever conforms can be restored, as
long as its days are dates. Null stands for null alone on both sides. Main statement:
`ConverterFactory.conforms_and_restored`.
-/

namespace ColumnScan

namespace Converter

/-! ## Storing -/

/-- Whatever is stored fits a column of the type. -/
def StoresInto (c : Converter) (type : DataType) : Prop :=
  ∀ n s, c.toStored n = .ok s → Conforms type s

theorem storesInto_of_store {c : Converter} {type : DataType}
    (h : ∀ n s, c.store n = .ok s → Conforms type s) : c.StoresInto type := by
  intro n s hs
  by_cases hn : n = .null
  · subst hn
    cases hs
    exact .null type
  · rw [toStored_of_ne_null c hn] at hs
    exact h n s hs

theorem admits_of_holds {kind : Kind} {x : Scalar} (h : holds kind x = true) :
    kind.Admits (.scalar x) := by
  cases kind <;> cases x <;> first | exact absurd h Bool.false_ne_true | constructor

theorem admits_of_same {kind : Kind} {n : Native} {s : Stored} (h : (same kind).store n = .ok s) :
    kind.Admits s := by
  cases n with
  | scalar x =>
    simp only [same] at h
    split at h
    next hx =>
      cases h
      exact admits_of_holds hx
    next => cases h
  | _ => cases h

/-- Rounding may add a digit, so the digits are counted after it. -/
theorem admits_of_decimal {precision scale : UInt8} {n : Native} {s : Stored}
    (h : (decimal precision scale).store n = .ok s) : (Kind.decimal precision scale).Admits s := by
  simp only [decimal] at h
  split at h
  next => cases h
  next d _ =>
    split at h
    next e he =>
      cases h
      obtain ⟨hrescale, hdigits⟩ := Option.filter_eq_some_iff.1 he
      exact .decimal (Decimal.rescale_scale hrescale) (of_decide_eq_true hdigits)
    next => cases h

theorem admits_of_timestamp {n : Native} {s : Stored} (h : timestamp.store n = .ok s) :
    Kind.timestamp.Admits s := by
  cases n with
  | timestamp t =>
    simp only [timestamp] at h
    split at h
    next =>
      cases h
      exact .timestamp _
    next => cases h
  | _ => cases h

theorem storesInto_ofKind (kind : Kind) : (ofKind kind).StoresInto (.primitive kind) := by
  apply storesInto_of_store
  intro n s h
  apply Conforms.scalar
  cases kind with
  | decimal precision scale => exact admits_of_decimal h
  | timestamp => exact admits_of_timestamp h
  | date =>
    cases n with
    | date d =>
      cases h
      exact .date _
    | _ => cases h
  | char limit =>
    cases n with
    | scalar x =>
      cases x with
      | string text =>
        cases h
        exact .char rfl (BoundedText.cut text limit).length_le
      | _ => cases h
    | _ => cases h
  | varchar limit =>
    cases n with
    | scalar x =>
      cases x with
      | string text =>
        cases h
        exact .varchar rfl (BoundedText.cut text limit).length_le
      | _ => cases h
    | _ => cases h
  | _ => exact admits_of_same h

theorem StoresInto.struct {fields : List (Named DataType)} {cs : List Converter}
    (size : fields.length = cs.length) (h : ∀ p ∈ fields.zip cs, p.2.StoresInto p.1.type) :
    (Converter.struct cs).StoresInto (.struct fields) := by
  apply storesInto_of_store
  intro n s hs
  cases n with
  | list vs =>
    simp only [Converter.struct] at hs
    by_cases hsize : vs.length = cs.length
    · rw [if_pos hsize] at hs
      obtain ⟨ss, hss, rfl⟩ := map_eq_ok_iff.1 hs
      rw [storeEach_eq_ok_iff] at hss
      have hlen : cs.length = ss.length := by
        rw [← hss.length_eq, List.length_zip, hsize, Nat.min_self]
      have hswap : List.Forall₂ (fun p v => p.1.toStored v = .ok p.2) (cs.zip ss) vs :=
        forall₂_zip_swap (R := fun c v s => c.toStored v = .ok s) hsize hss
      have hstored : List.Forall₂ (fun c s => ∃ v, c.toStored v = .ok s) cs ss := by
        refine List.forall₂_iff_zip.2 ⟨hlen, fun {c s} hp => ?_⟩
        obtain ⟨v, _, hv⟩ := exists_mem_of_forall₂ hswap (c, s) hp
        exact ⟨v, hv⟩
      have hparts : List.Forall₂ (fun field c => c.StoresInto field.type) fields cs :=
        List.forall₂_iff_zip.2 ⟨size, fun {field c} hp => h (field, c) hp⟩
      have hconforms : List.Forall₂ (fun field s => Conforms field.type s) fields ss := by
        refine forall₂_trans hparts hstored fun field c s hc hs => ?_
        obtain ⟨v, hv⟩ := hs
        exact hc v s hv
      exact .struct (size.trans hlen) fun p hp => List.forall₂_zip hconforms hp
    · rw [if_neg hsize] at hs
      cases hs
  | _ => cases hs

theorem StoresInto.list {c : Converter} {element : DataType} (h : c.StoresInto element) :
    (Converter.list c).StoresInto (.list element) := by
  apply storesInto_of_store
  intro n s hs
  cases n with
  | list vs =>
    obtain ⟨ss, hss, rfl⟩ := map_eq_ok_iff.1 hs
    rw [storeAll_eq_ok_iff] at hss
    refine .list ?_
    intro s hs
    obtain ⟨v, _, hv⟩ := exists_mem_of_forall₂ hss.flip s hs
    exact h v s hv
  | _ => cases hs

theorem StoresInto.map {key value : Converter} {keyType valueType : DataType}
    (hkey : key.StoresInto keyType) (hvalue : value.StoresInto valueType) :
    (Converter.map key value).StoresInto (.map keyType valueType) := by
  apply storesInto_of_store
  intro n s hs
  cases n with
  | map es =>
    obtain ⟨ps, hps, rfl⟩ := map_eq_ok_iff.1 hs
    rw [storeEntries_eq_ok_iff] at hps
    have hparts : ∀ p ∈ Entries.ofList Stored.cmp ps,
        Conforms keyType p.1 ∧ Conforms valueType p.2 := by
      apply Entries.forall_ofList
      intro p hp
      obtain ⟨e, _, hk, hv⟩ := exists_mem_of_forall₂ hps.flip p hp
      exact ⟨hkey e.1 p.1 hk, hvalue e.2 p.2 hv⟩
    exact .map (Entries.ascending_ofList ps) (fun p hp => (hparts p hp).1) fun p hp => (hparts p hp).2
  | _ => cases hs

theorem StoresInto.union {variants : List DataType} {cs : List Converter}
    (size : variants.length = cs.length) (h : ∀ p ∈ variants.zip cs, p.2.StoresInto p.1)
    (hnull : ∀ c ∈ cs, c.KeepsNull) : (Converter.union cs).StoresInto (.union variants) := by
  intro n s hs
  by_cases hn : n = .null
  · subst hn
    cases hs
    exact .null _
  rw [toStored_of_ne_null _ hn] at hs
  obtain ⟨i, c, t, hc, hle, _, ht, rfl⟩ := store_union_eq_ok_iff.1 hs
  obtain ⟨variant, hvariant, hpart⟩ := exists_getElem?_zip size hc
  have htag : i.toUInt8.toNat = i := UInt8.toNat_ofNat_of_lt' (Nat.lt_succ_of_le hle)
  -- Null never gets to a variant, and a variant makes null of nothing else.
  have ht' : t ≠ .null := by
    rintro rfl
    rw [toStored_of_ne_null c hn] at ht
    exact hnull c (List.mem_of_getElem? hc) n ht
  exact .union (by rw [htag]; exact hvariant) ht' (h (variant, c) hpart n t ht)

/-! ## Restoring -/

/-- Every value that fits a column of the type is restored if its days are dates, and as null only if
it is null. -/
def RestoresFrom (c : Converter) (type : DataType) : Prop :=
  ∀ s, Conforms type s → s.DatesInCalendar → ∃ n, c.toNative s = .ok n ∧ (n = .null → s = .null)

theorem restoresFrom_of_restore {c : Converter} {type : DataType}
    (h : ∀ s, s ≠ .null → Conforms type s → s.DatesInCalendar → ∃ n, c.restore s = .ok n ∧ n ≠ .null) :
    c.RestoresFrom type := by
  intro s hs hdates
  by_cases hnull : s = .null
  · subst hnull
    exact ⟨.null, rfl, fun _ => rfl⟩
  · obtain ⟨n, hn, hn'⟩ := h s hnull hs hdates
    exact ⟨n, by rw [toNative_of_ne_null c hnull, hn], fun heq => absurd heq hn'⟩

theorem restoresFrom_ofKind (kind : Kind) : (ofKind kind).RestoresFrom (.primitive kind) := by
  apply restoresFrom_of_restore
  intro s hnull hs hdates
  cases hs with
  | null => exact absurd rfl hnull
  | scalar admits =>
    cases admits with
    | date days =>
      obtain ⟨d, hd⟩ := hdates days List.mem_cons_self
      have hfound : Calendar.Date.ofDays? days.toInt = some d := by
        rw [← hd]
        exact Calendar.Date.ofDays?_toDays d
      refine ⟨.date d, ?_, Native.noConfusion⟩
      simp only [ofKind, date, hfound]
    | timestamp nanos =>
      -- Every count of nanoseconds that has 64 bits lies within the calendar.
      have hfits : InWidth 64 nanos.toInt := ⟨nanos.le_toInt, nanos.toInt_lt⟩
      obtain ⟨t, ht⟩ := Calendar.DateTime.exists_ofNanos? hfits
      refine ⟨.timestamp t, ?_, Native.noConfusion⟩
      simp only [ofKind, timestamp, ht]
    | _ => exact ⟨_, rfl, Native.noConfusion⟩

theorem RestoresFrom.struct {fields : List (Named DataType)} {cs : List Converter}
    (size : fields.length = cs.length) (h : ∀ p ∈ fields.zip cs, p.2.RestoresFrom p.1.type) :
    (Converter.struct cs).RestoresFrom (.struct fields) := by
  apply restoresFrom_of_restore
  intro s hnull hs hdates
  cases hs with
  | null => exact absurd rfl hnull
  | @struct _ ss hsize parts =>
    have hlen : ss.length = cs.length := hsize.symm.trans size
    have hflip : List.Forall₂ (fun c field => c.RestoresFrom field.type) cs fields :=
      (List.forall₂_iff_zip.2 ⟨size, fun {field c} hp => h (field, c) hp⟩).flip
    have hparts : List.Forall₂ (fun field s => Conforms field.type s ∧ s.DatesInCalendar) fields ss :=
      List.forall₂_iff_zip.2 ⟨hsize, fun {field s} hp => ⟨parts (field, s) hp,
        hdates.of_subset (Stored.nodes_subset_struct (List.of_mem_zip hp).2)⟩⟩
    have hrestored : List.Forall₂ (fun c s => ∃ v, c.toNative s = .ok v) cs ss :=
      forall₂_trans hflip hparts fun c field s hc hs => by
        obtain ⟨v, hv, _⟩ := hc s hs.1 hs.2
        exact ⟨v, hv⟩
    obtain ⟨vs, hvs⟩ := exists_forall₂ fun p hp => List.forall₂_zip hrestored (Prod.eta p ▸ hp)
    refine ⟨.list vs, ?_, Native.noConfusion⟩
    simp only [Converter.struct, if_pos hlen]
    exact map_eq_ok_iff.2 ⟨vs, restoreEach_eq_ok_iff.2 hvs, rfl⟩

theorem RestoresFrom.list {c : Converter} {element : DataType} (h : c.RestoresFrom element) :
    (Converter.list c).RestoresFrom (.list element) := by
  apply restoresFrom_of_restore
  intro s hnull hs hdates
  cases hs with
  | null => exact absurd rfl hnull
  | @list _ ss parts =>
    have hrestored : ∀ s ∈ ss, ∃ v, c.toNative s = .ok v := by
      intro s hs
      obtain ⟨v, hv, _⟩ := h s (parts s hs) (hdates.of_subset (Stored.nodes_subset_list hs))
      exact ⟨v, hv⟩
    obtain ⟨vs, hvs⟩ := exists_forall₂ hrestored
    exact ⟨.list vs, map_eq_ok_iff.2 ⟨vs, restoreAll_eq_ok_iff.2 hvs, rfl⟩, Native.noConfusion⟩

theorem RestoresFrom.map {key value : Converter} {keyType valueType : DataType}
    (hkey : key.RestoresFrom keyType) (hvalue : value.RestoresFrom valueType) :
    (Converter.map key value).RestoresFrom (.map keyType valueType) := by
  apply restoresFrom_of_restore
  intro s hnull hs hdates
  cases hs with
  | null => exact absurd rfl hnull
  | @map _ _ ps _ keys values =>
    have hrestored : ∀ p ∈ ps, ∃ e : Native × Native,
        key.toNative p.1 = .ok e.1 ∧ value.toNative p.2 = .ok e.2 := by
      intro p hp
      obtain ⟨hkeys, hvalues⟩ := Stored.nodes_subset_map hp
      obtain ⟨k, hk, _⟩ := hkey p.1 (keys p hp) (hdates.of_subset hkeys)
      obtain ⟨v, hv, _⟩ := hvalue p.2 (values p hp) (hdates.of_subset hvalues)
      exact ⟨(k, v), hk, hv⟩
    obtain ⟨es, hes⟩ := exists_forall₂ hrestored
    exact ⟨Native.ofPairs es, map_eq_ok_iff.2 ⟨es, restoreEntries_eq_ok_iff.2 hes, rfl⟩,
      Native.noConfusion⟩

theorem RestoresFrom.union {variants : List DataType} {cs : List Converter}
    (size : variants.length = cs.length) (h : ∀ p ∈ variants.zip cs, p.2.RestoresFrom p.1) :
    (Converter.union cs).RestoresFrom (.union variants) := by
  apply restoresFrom_of_restore
  intro s hnull hs hdates
  cases hs with
  | null => exact absurd rfl hnull
  | @union _ tag variant value named notNull part =>
    obtain ⟨c, hc, hpart⟩ := exists_getElem?_zip size.symm named
    have hmem : (variant, c) ∈ variants.zip cs :=
      List.mem_of_getElem? (List.getElem?_zip_eq_some.2 ⟨named, hc⟩)
    obtain ⟨n, hn, hn'⟩ :=
      h (variant, c) hmem value part (hdates.of_subset (Stored.nodes_subset_union tag value))
    refine ⟨n, ?_, fun heq => notNull (hn' heq)⟩
    simp only [Converter.union, hc, hn]

end Converter

/-! ## All stock converters -/

namespace Stock

theorem storesInto {type : DataType} {c : Converter} (h : Stock type c) : c.StoresInto type := by
  induction h with
  | primitive kind => exact Converter.storesInto_ofKind kind
  | struct size _ ih => exact .struct size ih
  | list _ ih => exact ih.list
  | map _ _ ihk ihv => exact ihk.map ihv
  | union size parts ih =>
    apply Converter.StoresInto.union size ih
    intro c hc
    obtain ⟨type, _, hpart⟩ := exists_mem_zip size hc
    exact (parts (type, c) hpart).keepsNull

theorem restoresFrom {type : DataType} {c : Converter} (h : Stock type c) : c.RestoresFrom type := by
  induction h with
  | primitive kind => exact Converter.restoresFrom_ofKind kind
  | struct size _ ih => exact .struct size ih
  | list _ ih => exact ih.list
  | map _ _ ihk ihv => exact ihk.map ihv
  | union size _ ih => exact .union size ih

theorem eq_null_of_stored_null {type : DataType} {c : Converter} (h : Stock type c) {n : Native}
    (hn : c.toStored n = .ok .null) : n = .null := by
  by_contra hne
  rw [Converter.toStored_of_ne_null c hne] at hn
  exact h.keepsNull n hn

end Stock

namespace ConverterFactory

/-- The converter of a valid type stores only values that fit a column of the type, null for null
alone, and restores every value that fits as long as its days are dates, as null for null alone. -/
theorem conforms_and_restored {type : DataType} (valid : type.validate = .ok ()) :
    ∃ c, stock.build type = .ok c ∧
      (∀ value stored, c.toStored value = .ok stored →
        Conforms type stored ∧ (stored = .null → value = .null)) ∧
      ∀ stored, Conforms type stored → stored.DatesInCalendar →
        ∃ value, c.toNative stored = .ok value ∧ (value = .null → stored = .null) := by
  obtain ⟨c, hc⟩ := exists_build_of_validate valid
  have hstock := stock_of_build hc
  refine ⟨c, hc, fun value stored hstored => ⟨hstock.storesInto value stored hstored, ?_⟩,
    hstock.restoresFrom⟩
  rintro rfl
  exact hstock.eq_null_of_stored_null hstored

/-- Prices or holidays by the codes of countries. -/
def priceOrDays : DataType :=
  .map (.primitive (.char 2)) (.union [.primitive (.decimal 3 1), .list (.primitive .date)])

/-- The first code is cut, the price gets one more digit when it is rounded, and the list is left to the
second variant. -/
def twoCountries : Native :=
  .map [(.scalar (.string "DEU"), .scalar (.decimal ⟨996, 2, by decide, by decide⟩)),
    (.scalar (.string "FR"), .list [.null, .date ⟨1969, 7, 14, by decide⟩])]

/-- What is stored for them. -/
def twoCountriesStored : Stored :=
  .map [(.char (.cut "DE" 2), .union 0 (.scalar (.decimal ⟨100, 1, by decide, by decide⟩))),
    (.char (.cut "FR" 2), .union 1 (.list [.null, .date (-171)]))]

theorem conforms_and_restored_twoCountries :
    ∃ c value, stock.build priceOrDays = .ok c ∧ c.toStored twoCountries = .ok twoCountriesStored ∧
      Conforms priceOrDays twoCountriesStored ∧ c.toNative twoCountriesStored = .ok value ∧
      value ≠ .null := by
  obtain ⟨c, hc, hstores, hrestores⟩ := @conforms_and_restored priceOrDays rfl
  cases hc
  have hprice : Converter.fitDecimal? 3 1 ⟨996, 2, by decide, by decide⟩ =
      some ⟨100, 1, by decide, by decide⟩ := by decide +kernel
  have hcode : BoundedText.cut "DEU" 2 = BoundedText.cut "DE" 2 := by decide +kernel
  have horder : (BoundedText.cut "FR" 2).cmp (BoundedText.cut "DE" 2) = .gt := by decide +kernel
  have hday : Calendar.Date.toDays ⟨1969, 7, 14, by decide⟩ = (-171 : Int32).toInt := by
    decide +kernel
  have hstored : (Converter.map (.ofKind (.char 2)) (.union [.ofKind (.decimal 3 1),
      .list (.ofKind .date)])).toStored twoCountries = .ok twoCountriesStored := by
    simp [Converter.toStored, Converter.map, Converter.storeEntries, Converter.union,
      Converter.storeVariant, Converter.ofKind, Converter.char, Converter.decimal, Converter.list,
      Converter.storeAll, Converter.date, Converter.decimalOf?, Converter.refuseNative,
      ConvertError.isMismatch, bind, Except.bind, pure, Except.pure, Except.map, Stored.ofPairs,
      Entries.ofList, Entries.insert, Stored.cmp, twoCountries, twoCountriesStored, hprice, hcode,
      horder, hday]
  have hdates : twoCountriesStored.DatesInCalendar := by
    intro days hm
    obtain rfl : days = -171 := by
      simpa [twoCountriesStored, Stored.nodes, Stored.nodesEntries, Stored.nodesList] using hm
    exact ⟨_, hday⟩
  obtain ⟨hconforms, _⟩ := hstores twoCountries _ hstored
  obtain ⟨value, hvalue, hnull⟩ := hrestores _ hconforms hdates
  exact ⟨_, value, rfl, hstored, hconforms, hvalue, fun heq => Stored.noConfusion (hnull heq)⟩

end ConverterFactory

end ColumnScan
