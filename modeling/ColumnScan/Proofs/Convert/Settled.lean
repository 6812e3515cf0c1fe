import ColumnScan.Proofs.Convert.Agreement
import ColumnScan.Proofs.Convert.Kinds
import ColumnScan.Proofs.Convert.Sameness

/-!
# Stored values are settled

Storing may cut text, round decimals and merge keys, but only once: what is stored can be restored,
and what it is restored as is stored as before. In a union this needs the variants to take different
kinds of values, so that what one variant made of a value is not taken by an earlier one. Main
statement: `ConverterFactory.stored_again_of_stored`.
-/

namespace ColumnScan

namespace Converter

/-- What is stored can be restored, and what it is restored as is stored as before. -/
def Settles (c : Converter) : Prop :=
  ∀ n s, c.toStored n = .ok s → ∃ m, c.toNative s = .ok m ∧ c.toStored m = .ok s

/-- Only null is stored as null. -/
def KeepsNull (c : Converter) : Prop := ∀ n, c.store n ≠ .ok .null

theorem settles_of_store {c : Converter} (hnull : c.KeepsNull)
    (h : ∀ n s, n ≠ .null → c.store n = .ok s →
      ∃ m, m ≠ .null ∧ c.restore s = .ok m ∧ c.store m = .ok s) : c.Settles := by
  intro n s hs
  by_cases hn : n = .null
  · subst hn
    cases hs
    exact ⟨.null, rfl, rfl⟩
  · rw [toStored_of_ne_null c hn] at hs
    have hs' : s ≠ .null := by
      rintro rfl
      exact hnull n hs
    obtain ⟨m, hm, hr, hagain⟩ := h n s hn hs
    exact ⟨m, by rw [toNative_of_ne_null c hs', hr], by rw [toStored_of_ne_null c hm, hagain]⟩

/-! ## Null is kept apart -/

theorem keepsNull_same (kind : Kind) : (same kind).KeepsNull := by
  intro n h
  cases n with
  | scalar x =>
    simp only [same] at h
    split at h <;> cases h
  | _ => cases h

theorem keepsNull_timestamp : timestamp.KeepsNull := by
  intro n h
  cases n with
  | timestamp t =>
    simp only [timestamp] at h
    split at h <;> cases h
  | _ => cases h

theorem keepsNull_decimal (precision scale : UInt8) : (decimal precision scale).KeepsNull := by
  intro n h
  simp only [decimal] at h
  split at h
  · cases h
  · split at h <;> cases h

theorem keepsNull_ofKind (kind : Kind) : (ofKind kind).KeepsNull := by
  cases kind with
  | timestamp => exact keepsNull_timestamp
  | decimal precision scale => exact keepsNull_decimal precision scale
  | date | char | varchar =>
    intro n h
    cases n with
    | scalar x => cases x <;> cases h
    | _ => cases h
  | _ => exact keepsNull_same _

theorem keepsNull_struct (cs : List Converter) : (struct cs).KeepsNull := by
  intro n h
  cases n with
  | list vs =>
    simp only [struct] at h
    split at h
    · obtain ⟨_, _, hs⟩ := map_eq_ok_iff.1 h
      cases hs
    · cases h
  | _ => cases h

theorem keepsNull_list (c : Converter) : (list c).KeepsNull := by
  intro n h
  cases n with
  | list vs =>
    obtain ⟨_, _, hs⟩ := map_eq_ok_iff.1 h
    cases hs
  | _ => cases h

theorem keepsNull_map (key value : Converter) : (map key value).KeepsNull := by
  intro n h
  cases n with
  | map es =>
    obtain ⟨_, _, hs⟩ := map_eq_ok_iff.1 h
    cases hs
  | _ => cases h

theorem keepsNull_union (cs : List Converter) : (union cs).KeepsNull := by
  intro n h
  obtain ⟨_, _, _, _, _, _, _, hs⟩ := storeVariant_eq_ok_iff.1 h
  cases hs

/-! ## Scalars -/

theorem settles_same (kind : Kind) : (same kind).Settles := by
  apply settles_of_store (keepsNull_same kind)
  intro n s _ hs
  cases n with
  | scalar x =>
    simp only [same] at hs
    split at hs
    next hx =>
      cases hs
      exact ⟨.scalar x, Native.noConfusion, if_pos hx, if_pos hx⟩
    next => cases hs
  | _ => cases hs

theorem settles_date : date.Settles := by
  apply settles_of_store (keepsNull_ofKind .date)
  intro n s _ hs
  cases n with
  | date d =>
    cases hs
    exact ⟨.date d, Native.noConfusion, restore_date_toDays d, rfl⟩
  | scalar x => cases x <;> cases hs
  | _ => cases hs

theorem settles_timestamp : timestamp.Settles := by
  apply settles_of_store keepsNull_timestamp
  intro n s _ hs
  cases n with
  | timestamp t =>
    obtain ⟨n, hcount, rfl⟩ := store_timestamp_eq_ok_iff.1 hs
    obtain ⟨-, hfits, -⟩ := Calendar.DateTime.toNanos?_eq_some_iff.1 hcount
    -- A leap second is restored as the second after it, which has the same count.
    obtain ⟨u, hu⟩ := Calendar.DateTime.exists_ofNanos? hfits
    obtain rfl := Calendar.DateTime.toNanos_of_ofNanos? hu
    have hagain := Calendar.DateTime.toNanos?_of_not_leap
      (Calendar.DateTime.isLeapSecond_of_ofNanos? hu) hfits
    exact ⟨.timestamp u, Native.noConfusion, restore_timestamp_ofInt hfits hu,
      store_timestamp_eq_ok_iff.2 ⟨_, hagain, rfl⟩⟩
  | scalar x => cases x <;> cases hs
  | _ => cases hs

theorem settles_decimal (precision scale : UInt8) : (decimal precision scale).Settles := by
  apply settles_of_store (keepsNull_decimal precision scale)
  intro n s _ hs
  simp only [decimal] at hs
  split at hs
  next => cases hs
  next d _ =>
    split at hs
    next e he =>
      cases hs
      refine ⟨.scalar (.decimal e), Native.noConfusion, rfl, ?_⟩
      -- A decimal that already has the scale of the column is not rounded again.
      obtain ⟨hrescale, hprecision⟩ := Option.filter_eq_some_iff.1 he
      have hagain : fitDecimal? precision scale e = some e := by
        have hscale := Decimal.rescale_scale hrescale
        rw [fitDecimal?, ← hscale, Decimal.rescale_self]
        exact Option.filter_eq_some_iff.2 ⟨rfl, hprecision⟩
      simp only [decimal, decimalOf?, hagain]
    next => cases hs

/-- Text that was cut to a bound is not cut again. -/
theorem cut_cut (s : String) (limit : UInt32) : BoundedText.cut (BoundedText.cut s limit).value limit =
    BoundedText.cut s limit :=
  BoundedText.eq_of_parts (BoundedText.cut_value_of_le (BoundedText.cut s limit).length_le) rfl

theorem settles_text {c : Converter} {limit : UInt32} (wrap : BoundedText → Stored)
    (hnull : c.KeepsNull)
    (hcut : ∀ n s, c.store n = .ok s → ∃ text, s = wrap (.cut text limit))
    (hstore : ∀ text, c.store (.scalar (.string text)) = .ok (wrap (.cut text limit)))
    (hrestore : ∀ t, c.restore (wrap t) = .ok (.scalar (.string t.value))) : c.Settles := by
  apply settles_of_store hnull
  intro n s _ hs
  rcases hcut n s hs with ⟨text, rfl⟩
  refine ⟨.scalar (.string (BoundedText.cut text limit).value), Native.noConfusion, hrestore _, ?_⟩
  rw [hstore, cut_cut]

theorem settles_char (limit : UInt32) : (char limit).Settles := by
  apply settles_text .char (keepsNull_ofKind (.char limit)) _ (fun _ => rfl) fun _ => rfl
  intro n s hs
  cases n with
  | scalar x =>
    cases x with
    | string text =>
      cases hs
      exact ⟨text, rfl⟩
    | _ => cases hs
  | _ => cases hs

theorem settles_varchar (limit : UInt32) : (varchar limit).Settles := by
  apply settles_text .varchar (keepsNull_ofKind (.varchar limit)) _ (fun _ => rfl) fun _ => rfl
  intro n s hs
  cases n with
  | scalar x =>
    cases x with
    | string text =>
      cases hs
      exact ⟨text, rfl⟩
    | _ => cases hs
  | _ => cases hs

theorem settles_ofKind (kind : Kind) : (ofKind kind).Settles := by
  cases kind with
  | date => exact settles_date
  | timestamp => exact settles_timestamp
  | decimal precision scale => exact settles_decimal precision scale
  | char limit => exact settles_char limit
  | varchar limit => exact settles_varchar limit
  | _ => exact settles_same _

/-! ## Composites -/

/-! ### Restoring what was stored part by part -/

/-- If every part can be restored as something related to what was stored, so can the parts of a
struct. -/
theorem exists_restored_struct {R : Converter → Native → Stored → Prop} {cs : List Converter}
    {vs : List Native} {s : Stored}
    (h : ∀ c ∈ cs, ∀ n t, c.toStored n = .ok t → ∃ m, c.toNative t = .ok m ∧ R c m t)
    (hs : (struct cs).store (.list vs) = .ok s) :
    ∃ ss ws, s = .struct ss ∧ (struct cs).restore (.struct ss) = .ok (.list ws) ∧
      ws.length = cs.length ∧ List.Forall₂ (fun p t => R p.1 p.2 t) (cs.zip ws) ss := by
  simp only [struct] at hs
  by_cases hsize : vs.length = cs.length
  · rw [if_pos hsize] at hs
    obtain ⟨ss, hss, rfl⟩ := map_eq_ok_iff.1 hs
    rw [storeEach_eq_ok_iff] at hss
    have hlen : ss.length = cs.length := by
      rw [← hss.length_eq, List.length_zip, hsize, Nat.min_self]
    have hstored : List.Forall₂ (fun p v => p.1.toStored v = .ok p.2) (cs.zip ss) vs :=
      forall₂_zip_swap (R := fun c v s => c.toStored v = .ok s) hsize hss
    have hparts : ∀ p ∈ cs.zip ss, ∃ w, p.1.toNative p.2 = .ok w ∧ R p.1 w p.2 := by
      intro p hp
      obtain ⟨v, _, hv⟩ := exists_mem_of_forall₂ hstored p hp
      exact h p.1 (List.of_mem_zip hp).1 v p.2 hv
    obtain ⟨ws, hws⟩ := exists_forall₂ hparts
    have hlen' : ws.length = cs.length := by
      rw [← hws.length_eq, List.length_zip, hlen, Nat.min_self]
    refine ⟨ss, ws, rfl, ?_, hlen',
      forall₂_zip_swap (R := fun c s w => R c w s) hlen (hws.imp fun p w hp => hp.2)⟩
    simp only [struct, if_pos hlen]
    exact map_eq_ok_iff.2 ⟨ws, restoreEach_eq_ok_iff.2 (hws.imp fun p w hp => hp.1), rfl⟩
  · rw [if_neg hsize] at hs
    cases hs

theorem exists_restored_list {R : Native → Stored → Prop} {c : Converter} {vs : List Native}
    {s : Stored} (h : ∀ n t, c.toStored n = .ok t → ∃ m, c.toNative t = .ok m ∧ R m t)
    (hs : (list c).store (.list vs) = .ok s) :
    ∃ ss ws, s = .list ss ∧ (list c).restore (.list ss) = .ok (.list ws) ∧ List.Forall₂ R ws ss := by
  obtain ⟨ss, hss, rfl⟩ := map_eq_ok_iff.1 hs
  rw [storeAll_eq_ok_iff] at hss
  have hitems : ∀ t ∈ ss, ∃ w, c.toNative t = .ok w ∧ R w t := by
    intro t ht
    obtain ⟨v, _, hv⟩ := exists_mem_of_forall₂ hss.flip t ht
    exact h v t hv
  obtain ⟨ws, hws⟩ := exists_forall₂ hitems
  exact ⟨ss, ws, rfl,
    map_eq_ok_iff.2 ⟨ws, restoreAll_eq_ok_iff.2 (hws.imp fun t w hw => hw.1), rfl⟩,
    (hws.imp fun t w hw => hw.2).flip⟩

/-- Entries that were merged mix the key of one pair with the value of another, so keys and values are
followed apart. -/
theorem exists_restored_map {R S : Native → Stored → Prop} {key value : Converter}
    {es : List (Native × Native)} {s : Stored}
    (hkey : ∀ n t, key.toStored n = .ok t → ∃ m, key.toNative t = .ok m ∧ R m t)
    (hvalue : ∀ n t, value.toStored n = .ok t → ∃ m, value.toNative t = .ok m ∧ S m t)
    (hs : (map key value).store (.map es) = .ok s) :
    ∃ ps fs, s = Stored.ofPairs ps ∧ (map key value).restore s = .ok (Native.ofPairs fs) ∧
      List.Forall₂ (fun f p => R f.1 p.1 ∧ S f.2 p.2) fs (Entries.ofList Stored.cmp ps) := by
  obtain ⟨ps, hps, rfl⟩ := map_eq_ok_iff.1 hs
  rw [storeEntries_eq_ok_iff] at hps
  have hstored : ∀ p ∈ Entries.ofList Stored.cmp ps,
      (∃ k, key.toStored k = .ok p.1) ∧ ∃ v, value.toStored v = .ok p.2 := by
    apply Entries.forall_ofList (P := fun s => ∃ k, key.toStored k = .ok s)
      (Q := fun s => ∃ v, value.toStored v = .ok s)
    intro p hp
    obtain ⟨e, _, hk, hv⟩ := exists_mem_of_forall₂ hps.flip p hp
    exact ⟨⟨e.1, hk⟩, ⟨e.2, hv⟩⟩
  have hentries : ∀ p ∈ Entries.ofList Stored.cmp ps, ∃ f : Native × Native,
      (key.toNative p.1 = .ok f.1 ∧ value.toNative p.2 = .ok f.2) ∧ R f.1 p.1 ∧ S f.2 p.2 := by
    intro p hp
    obtain ⟨⟨k, hk⟩, v, hv⟩ := hstored p hp
    obtain ⟨k', hk, hk'⟩ := hkey k p.1 hk
    obtain ⟨v', hv, hv'⟩ := hvalue v p.2 hv
    exact ⟨(k', v'), ⟨hk, hv⟩, hk', hv'⟩
  obtain ⟨fs, hfs⟩ := exists_forall₂ hentries
  exact ⟨ps, fs, rfl,
    map_eq_ok_iff.2 ⟨fs, restoreEntries_eq_ok_iff.2 (hfs.imp fun p f hp => hp.1), rfl⟩,
    (hfs.imp fun p f hp => hp.2).flip⟩

/-! ### Settled parts -/

theorem Settles.struct {cs : List Converter} (h : ∀ c ∈ cs, c.Settles) :
    (Converter.struct cs).Settles := by
  apply settles_of_store (keepsNull_struct cs)
  intro n s _ hs
  cases n with
  | list vs =>
    obtain ⟨ss, ws, rfl, hrestored, hsize, hagain⟩ :=
      exists_restored_struct (R := fun c w t => c.toStored w = .ok t) h hs
    refine ⟨.list ws, Native.noConfusion, hrestored, ?_⟩
    simp only [Converter.struct, if_pos hsize]
    exact map_eq_ok_iff.2 ⟨ss, storeEach_eq_ok_iff.2 hagain, rfl⟩
  | _ => cases hs

theorem Settles.list {c : Converter} (h : c.Settles) : (Converter.list c).Settles := by
  apply settles_of_store (keepsNull_list c)
  intro n s _ hs
  cases n with
  | list vs =>
    obtain ⟨ss, ws, rfl, hrestored, hagain⟩ := exists_restored_list h hs
    exact ⟨.list ws, Native.noConfusion, hrestored,
      map_eq_ok_iff.2 ⟨ss, storeAll_eq_ok_iff.2 hagain, rfl⟩⟩
  | _ => cases hs

/-- Keys that are different in the column are restored as different ones, so no entry is lost. -/
theorem Settles.map {key value : Converter} (hkey : key.Settles) (hvalue : value.Settles)
    (halike : key.StoresAlike) : (Converter.map key value).Settles := by
  apply settles_of_store (keepsNull_map key value)
  intro n s _ hs
  cases n with
  | map es =>
    obtain ⟨ps, fs, rfl, hrestored, hagain⟩ := exists_restored_map hkey hvalue hs
    -- The native map orders its keys otherwise, so they are stored in another order.
    have hkeys : ∀ (f g : Native × Native) (p q : Stored × Stored),
        key.toStored f.1 = .ok p.1 ∧ value.toStored f.2 = .ok p.2 →
        key.toStored g.1 = .ok q.1 ∧ value.toStored g.2 = .ok q.2 →
        f.1.cmp g.1 = .eq → p.1.cmp q.1 = .eq := by
      intro f g p q hp hq hfg
      rw [halike.eq_of_cmp hp.1 hq.1 hfg]
      exact Std.ReflCmp.compare_self
    obtain ⟨qs, hqs, hsorted⟩ := Entries.exists_ofList_of_forall₂ hagain
      (Entries.ascending_ofList ps) hkeys
    have hmap : Stored.ofPairs qs = Stored.ofPairs ps := by
      rw [Stored.ofPairs, Stored.ofPairs, hsorted]
    exact ⟨Native.ofPairs fs, Native.noConfusion, hrestored,
      map_eq_ok_iff.2 ⟨qs, storeEntries_eq_ok_iff.2 hqs, hmap⟩⟩
  | _ => cases hs

/-- What a variant made of a value must be refused by the variants before it. -/
theorem Settles.union {cs : List Converter} (h : ∀ c ∈ cs, c.Settles)
    (hnull : ∀ c ∈ cs, c.KeepsNull)
    (hfirst : ∀ i c m t, cs[i]? = some c → m ≠ .null → c.toStored m = .ok t →
      ∀ d ∈ cs.take i, d.Mismatches m) : (Converter.union cs).Settles := by
  apply settles_of_store (keepsNull_union cs)
  intro n s hn hs
  obtain ⟨i, c, t, hc, hle, _, ht, rfl⟩ := store_union_eq_ok_iff.1 hs
  have hmem : c ∈ cs := List.mem_of_getElem? hc
  obtain ⟨m, hm, hagain⟩ := h c hmem n t ht
  -- Null would be taken by the first variant, whichever variant stored the value.
  have hm' : m ≠ .null := by
    rintro rfl
    cases hagain
    rw [toStored_of_ne_null c hn] at ht
    exact hnull c hmem n ht
  refine ⟨m, hm', (restore_union hc hle t).trans hm, ?_⟩
  exact store_union_eq_ok_iff.2 ⟨i, c, t, hc, hle, hfirst i c m t hc hm' hagain, hagain, rfl⟩

end Converter

namespace Stock

theorem keepsNull {type : DataType} {c : Converter} (h : Stock type c) : c.KeepsNull := by
  cases h with
  | primitive kind => exact Converter.keepsNull_ofKind kind
  | struct => exact Converter.keepsNull_struct _
  | list => exact Converter.keepsNull_list _
  | map => exact Converter.keepsNull_map _ _
  | union => exact Converter.keepsNull_union _

theorem settles {type : DataType} {c : Converter} (h : Stock type c) (hunion : type.Unambiguous) :
    c.Settles := by
  induction h with
  | primitive kind => exact Converter.settles_ofKind kind
  | struct size _ ih =>
    apply Converter.Settles.struct
    intro c hc
    obtain ⟨field, hfield, hpart⟩ := exists_mem_zip size hc
    exact ih (field, c) hpart (hunion.of_subset (DataType.nodes_subset_struct hfield))
  | @list element _ _ ih =>
    apply Converter.Settles.list
    exact ih (hunion.of_subset (DataType.nodes_subset_list element))
  | @map key value _ _ keys _ ihk ihv =>
    obtain ⟨hkey, hvalue⟩ := DataType.nodes_subset_map key value
    apply Converter.Settles.map
    · exact ihk (hunion.of_subset hkey)
    · exact ihv (hunion.of_subset hvalue)
    · exact keys.storesAlike
  | union size parts ih =>
    apply Converter.Settles.union
    · intro c hc
      obtain ⟨type, htype, hpart⟩ := exists_mem_zip size hc
      exact ih (type, c) hpart (hunion.of_subset (DataType.nodes_subset_union htype))
    · intro c hc
      obtain ⟨type, _, hpart⟩ := exists_mem_zip size hc
      exact (parts (type, c) hpart).keepsNull
    · intro i c m t hc hm ht
      exact mismatches_of_take size parts (hunion _ (DataType.mem_nodes_self _)) hc hm ht

end Stock

namespace ConverterFactory

/-- If the variants of every union take different kinds of values, then whatever is stored can be
restored, and what it is restored as is stored as exactly the same again. -/
theorem stored_again_of_stored {type : DataType} (valid : type.validate = .ok ())
    (hunion : type.Unambiguous) :
    ∃ c, stock.build type = .ok c ∧ ∀ value stored, c.toStored value = .ok stored →
      ∃ restored, c.toNative stored = .ok restored ∧ c.toStored restored = .ok stored := by
  obtain ⟨c, hc⟩ := exists_build_of_validate valid
  exact ⟨c, hc, (stock_of_build hc).settles hunion⟩

/-- Short keys, each with a time or a list. -/
def timesByCode : DataType :=
  .map (.primitive (.char 2)) (.union [.primitive .timestamp, .list (.primitive .string)])

/-- The first two keys become one when they are cut, and the last value is a leap second. -/
def threeCodes : Native :=
  .map [(.scalar (.string "abc"), .null), (.scalar (.string "abd"), .list [.null]),
    (.scalar (.string "b"),
      .timestamp ⟨⟨1972, 6, 30, by decide⟩, 23, 59, 59, 1500000000, by decide⟩)]

theorem stored_again_of_stored_threeCodes :
    ∃ c stored restored, stock.build timesByCode = .ok c ∧ c.toStored threeCodes = .ok stored ∧
      c.toNative stored = .ok restored ∧ c.toStored restored = .ok stored := by
  have hunion : timesByCode.Unambiguous := by
    intro variants hv
    obtain rfl : variants = _ := by
      simpa [timesByCode, DataType.nodes, DataType.nodesVariants] using hv
    simp [DataType.takes, Kind.takes]
  obtain ⟨c, hc, h⟩ := @stored_again_of_stored timesByCode rfl hunion
  cases hc
  obtain ⟨restored, hrestored, hagain⟩ := h threeCodes _ rfl
  exact ⟨_, _, restored, rfl, rfl, hrestored, hagain⟩

end ConverterFactory

end ColumnScan
