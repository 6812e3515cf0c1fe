import ColumnScan.Proofs.Convert.Agreement
import ColumnScan.Proofs.Convert.Sameness
import ColumnScan.Proofs.Value.Nodes

/-!
# Values that come back as they were

Text without a bound, numbers other than decimals, dates, and times outside leap seconds are stored
without loss, and composites lose nothing that their parts do not: a struct and a list keep their
order, a union remembers the variant, and different keys of a map stay different. Main statement:
`ConverterFactory.restored_same_of_stored`.
-/

namespace ColumnScan

/-- Whether values of the kind are stored as they are, neither cut nor rounded. -/
def Kind.keepsValues : Kind → Bool
  | .decimal .. | .char _ | .varchar _ => false
  | _ => true

/-- Maps are ordered and no time lies in a leap second, anywhere in the value. -/
structure Native.Regular (value : Native) : Prop where
  ordered : value.OrderedMaps
  noLeapSecond : value.NoLeapSecond

namespace Native

theorem Regular.of_subset {value part : Native} (h : value.Regular) (hpart : part.nodes ⊆ value.nodes) :
    part.Regular :=
  ⟨fun entries hm => h.ordered entries (hpart hm), fun time hm => h.noLeapSecond time (hpart hm)⟩

theorem Regular.of_mem {items : List Native} (h : (Native.list items).Regular) {item : Native}
    (hmem : item ∈ items) : item.Regular :=
  h.of_subset (nodes_subset_list hmem)

theorem Regular.of_mem_entries {entries : List (Native × Native)}
    (h : (Native.map entries).Regular) {entry : Native × Native} (hmem : entry ∈ entries) :
    entry.1.Regular ∧ entry.2.Regular :=
  ⟨h.of_subset (nodes_subset_map hmem).1, h.of_subset (nodes_subset_map hmem).2⟩

theorem Regular.ascending {entries : List (Native × Native)} (h : (Native.map entries).Regular) :
    Entries.Ascending cmp entries :=
  h.ordered entries List.mem_cons_self

end Native

namespace Converter

/-- Whatever regular value is stored is restored as it was. -/
def Lossless (c : Converter) : Prop :=
  ∀ n s, n.Regular → c.toStored n = .ok s → c.toNative s = .ok n

theorem lossless_of_store {c : Converter}
    (h : ∀ n s, n.Regular → c.store n = .ok s → s ≠ .null ∧ c.restore s = .ok n) : c.Lossless := by
  intro n s hn hs
  by_cases hnull : n = .null
  · subst hnull
    cases hs
    rfl
  · rw [toStored_of_ne_null c hnull] at hs
    obtain ⟨hs', hr⟩ := h n s hn hs
    rw [toNative_of_ne_null c hs', hr]

theorem lossless_same (kind : Kind) : (same kind).Lossless := by
  apply lossless_of_store
  intro n s _ hs
  cases n with
  | scalar x =>
    simp only [same] at hs ⊢
    split at hs
    next hx =>
      cases hs
      exact ⟨Stored.noConfusion, if_pos hx⟩
    next => cases hs
  | _ => cases hs

theorem lossless_date : date.Lossless := by
  apply lossless_of_store
  intro n s _ hs
  cases n with
  | date d =>
    cases hs
    exact ⟨Stored.noConfusion, restore_date_toDays d⟩
  | _ => cases hs

theorem lossless_timestamp : timestamp.Lossless := by
  apply lossless_of_store
  intro n s hn hs
  cases n with
  | timestamp t =>
    obtain ⟨n, hcount, rfl⟩ := store_timestamp_eq_ok_iff.1 hs
    obtain ⟨rfl, hfits, -⟩ := Calendar.DateTime.toNanos?_eq_some_iff.1 hcount
    have ht : t.isLeapSecond = false := hn.noLeapSecond t List.mem_cons_self
    have hfound := Calendar.DateTime.ofNanos?_toNanos ht
    exact ⟨Stored.noConfusion, restore_timestamp_ofInt hfits hfound⟩
  | _ => cases hs

theorem lossless_ofKind {kind : Kind} (h : kind.keepsValues = true) : (ofKind kind).Lossless := by
  cases kind with
  | decimal | char | varchar => cases h
  | date => exact lossless_date
  | timestamp => exact lossless_timestamp
  | _ => exact lossless_same _

theorem Lossless.struct {cs : List Converter} (h : ∀ c ∈ cs, c.Lossless) :
    (Converter.struct cs).Lossless := by
  apply lossless_of_store
  intro n s hn hs
  cases n with
  | list vs =>
    simp only [Converter.struct] at hs ⊢
    by_cases hsize : vs.length = cs.length
    · rw [if_pos hsize] at hs
      obtain ⟨ss, hss, rfl⟩ := map_eq_ok_iff.1 hs
      rw [storeEach_eq_ok_iff] at hss
      have hlen : ss.length = cs.length := by
        rw [← hss.length_eq, List.length_zip, hsize, Nat.min_self]
      refine ⟨Stored.noConfusion, ?_⟩
      simp only [if_pos hlen]
      refine map_eq_ok_iff.2 ⟨vs, restoreEach_eq_ok_iff.2 ?_, rfl⟩
      have hparts : ∀ p ∈ cs.zip vs, p.1.Lossless ∧ p.2.Regular := by
        intro p hp
        obtain ⟨hc, hv⟩ := List.of_mem_zip hp
        exact ⟨h p.1 hc, hn.of_mem hv⟩
      have hrestored := ((List.forall₂_and_left _ _).2 ⟨hparts, hss⟩).imp fun p s hp =>
        hp.1.1 p.2 s hp.1.2 hp.2
      exact forall₂_zip_swap (R := fun c v s => c.toNative s = .ok v) hsize hrestored
    · rw [if_neg hsize] at hs
      cases hs
  | _ => cases hs

theorem Lossless.list {c : Converter} (h : c.Lossless) : (Converter.list c).Lossless := by
  apply lossless_of_store
  intro n s hn hs
  cases n with
  | list vs =>
    obtain ⟨ss, hss, rfl⟩ := map_eq_ok_iff.1 hs
    refine ⟨Stored.noConfusion, map_eq_ok_iff.2 ⟨vs, restoreAll_eq_ok_iff.2 ?_, rfl⟩⟩
    have hregular : ∀ v ∈ vs, v.Regular := fun v hv => hn.of_mem hv
    rw [storeAll_eq_ok_iff] at hss
    exact (((List.forall₂_and_left _ _).2 ⟨hregular, hss⟩).imp fun v s hv => h v s hv.1 hv.2).flip
  | _ => cases hs

/-- Different keys are stored as different ones, so all entries are there again. -/
theorem Lossless.map {key value : Converter} (hkey : key.Lossless) (hvalue : value.Lossless)
    (halike : key.RestoresAlike) : (Converter.map key value).Lossless := by
  apply lossless_of_store
  intro n s hn hs
  cases n with
  | map es =>
    obtain ⟨ps, hps, rfl⟩ := map_eq_ok_iff.1 hs
    refine ⟨Stored.noConfusion, ?_⟩
    have hregular : ∀ e ∈ es, e.1.Regular ∧ e.2.Regular := fun e he => hn.of_mem_entries he
    rw [storeEntries_eq_ok_iff] at hps
    have hrestored : List.Forall₂
        (fun p e => key.toNative p.1 = .ok e.1 ∧ value.toNative p.2 = .ok e.2) ps es :=
      (((List.forall₂_and_left _ _).2 ⟨hregular, hps⟩).imp fun e p he =>
        ⟨hkey e.1 p.1 he.1.1 he.2.1, hvalue e.2 p.2 he.1.2 he.2.2⟩).flip
    -- The column orders its keys otherwise, so they are restored in another order.
    obtain ⟨fs, hfs, hsorted⟩ := Entries.exists_ofList_of_forall₂ hrestored hn.ascending
      fun p q e f hp hq hpq => halike.cmp_of_cmp hp.1 hq.1 hpq
    refine map_eq_ok_iff.2 ⟨fs, restoreEntries_eq_ok_iff.2 hfs, ?_⟩
    rw [Native.ofPairs, hsorted]
  | _ => cases hs

theorem Lossless.union {cs : List Converter} (h : ∀ c ∈ cs, c.Lossless) :
    (Converter.union cs).Lossless := by
  apply lossless_of_store
  intro n s hn hs
  obtain ⟨i, c, t, hc, hle, _, ht, rfl⟩ := store_union_eq_ok_iff.1 hs
  refine ⟨Stored.noConfusion, ?_⟩
  rw [restore_union hc hle]
  exact h c (List.mem_of_getElem? hc) n t hn ht

end Converter

theorem Stock.lossless {type : DataType} {c : Converter} (h : Stock type c)
    (hkinds : ∀ kind, .primitive kind ∈ type.nodes → kind.keepsValues = true) : c.Lossless := by
  -- What is asked of all kinds in a type is asked of all kinds in its parts.
  induction h with
  | primitive kind =>
    apply Converter.lossless_ofKind
    exact hkinds kind (DataType.mem_nodes_self _)
  | struct size _ ih =>
    apply Converter.Lossless.struct
    intro c hc
    obtain ⟨field, hfield, hpart⟩ := exists_mem_zip size hc
    have hsubset := DataType.nodes_subset_struct hfield
    exact ih (field, c) hpart fun kind hkind => hkinds kind (hsubset hkind)
  | @list element _ _ ih =>
    apply Converter.Lossless.list
    exact ih fun kind hkind => hkinds kind (DataType.nodes_subset_list element hkind)
  | @map key value _ _ keys _ ihk ihv =>
    obtain ⟨hkey, hvalue⟩ := DataType.nodes_subset_map key value
    apply Converter.Lossless.map
    · exact ihk fun kind hkind => hkinds kind (hkey hkind)
    · exact ihv fun kind hkind => hkinds kind (hvalue hkind)
    · exact keys.restoresAlike
  | union size _ ih =>
    apply Converter.Lossless.union
    intro c hc
    obtain ⟨type, htype, hpart⟩ := exists_mem_zip size hc
    have hsubset := DataType.nodes_subset_union htype
    exact ih (type, c) hpart fun kind hkind => hkinds kind (hsubset hkind)

namespace ConverterFactory

/-- Without bounded text and decimals in its type, a value that is stored is restored as the same
value, whatever unions the type has. -/
theorem restored_same_of_stored {type : DataType} (valid : type.validate = .ok ())
    (hkinds : ∀ kind, .primitive kind ∈ type.nodes → kind.keepsValues = true) :
    ∃ c, stock.build type = .ok c ∧
      ∀ value stored, value.OrderedMaps → value.NoLeapSecond → c.toStored value = .ok stored →
        ∃ restored, c.toNative stored = .ok restored ∧ restored.same value = true := by
  obtain ⟨c, hc⟩ := exists_build_of_validate valid
  refine ⟨c, hc, fun value stored hordered hleap hstored => ⟨value, ?_, ?_⟩⟩
  · exact (stock_of_build hc).lossless hkinds value stored ⟨hordered, hleap⟩ hstored
  · have hself : value.cmp value = .eq := Std.ReflCmp.compare_self
    rw [Native.same, hself]
    rfl

/-- Times by lists, of which two variants take the empty one. -/
def timesByList : DataType :=
  .map (.union [.list (.primitive .string), .list (.primitive .int)]) (.primitive .timestamp)

/-- Three keys that the column orders otherwise than the application does. -/
def threeTimes : Native :=
  .map [(.list [], .null),
    (.list [.scalar (.int 1)], .timestamp ⟨⟨1970, 1, 1, by decide⟩, 0, 0, 0, 7, by decide⟩),
    (.list [.scalar (.string "x")], .null)]

theorem restored_same_of_stored_threeTimes :
    ∃ c stored restored, stock.build timesByList = .ok c ∧ c.toStored threeTimes = .ok stored ∧
      c.toNative stored = .ok restored ∧ restored.same threeTimes = true := by
  have hkinds : ∀ kind, .primitive kind ∈ timesByList.nodes → kind.keepsValues = true := by
    simp [timesByList, DataType.nodes, DataType.nodesVariants, Kind.keepsValues]
  obtain ⟨c, hc, h⟩ := @restored_same_of_stored timesByList rfl hkinds
  have hordered : threeTimes.OrderedMaps := by
    intro entries hm
    obtain rfl : entries = _ := by
      simpa [threeTimes, Native.nodes, Native.nodesEntries, Native.nodesList] using hm
    simp only [Entries.Ascending, List.pairwise_cons, List.forall_mem_cons]
    decide
  have hleap : threeTimes.NoLeapSecond := by
    intro time hm
    obtain rfl : time = _ := by
      simpa [threeTimes, Native.nodes, Native.nodesEntries, Native.nodesList] using hm
    rfl
  cases hc
  obtain ⟨restored, hrestored, hsame⟩ := h threeTimes _ hordered hleap rfl
  exact ⟨_, _, restored, rfl, rfl, hrestored, hsame⟩

end ConverterFactory

end ColumnScan
