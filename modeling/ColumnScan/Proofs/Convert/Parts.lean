import ColumnScan.Convert.Converter
import ColumnScan.Proofs.Calendar.Words
import ColumnScan.Proofs.Outcome

/-!
# Converting the parts of a value

Composite values are converted part by part, each part by a converter of its own, and the parts are
stored or restored exactly when each of them is. A union stores a value with the first variant that
does not refuse its kind. Main statements: the equivalences `..._eq_ok_iff`, one for each way of
going through parts; `restore_date_toDays` and `restore_timestamp_ofInt`, what the counts that dates
and times are stored as stand for.
-/

namespace ColumnScan.Converter

/-! ## Null -/

theorem toStored_of_ne_null (c : Converter) {value : Native} (h : value ≠ .null) :
    c.toStored value = c.store value := by
  cases value with
  | null => exact absurd rfl h
  | _ => rfl

theorem toNative_of_ne_null (c : Converter) {value : Stored} (h : value ≠ .null) :
    c.toNative value = c.restore value := by
  cases value with
  | null => exact absurd rfl h
  | _ => rfl

/-! ## Dates and times -/

/-- The count of a date has room in 32 bits. -/
theorem toInt_ofInt_toDays (d : Calendar.Date) : (Int32.ofInt d.toDays).toInt = d.toDays := by
  have hbounds := d.toDays_bounds
  rw [Calendar.Date.toDays_first, Calendar.Date.toDays_last] at hbounds
  apply Int32.toInt_ofInt_of_le <;> omega

theorem restore_date_toDays (d : Calendar.Date) :
    date.restore (.date (Int32.ofInt d.toDays)) = .ok (.date d) := by
  simp only [date, toInt_ofInt_toDays, Calendar.Date.ofDays?_toDays]

theorem restore_timestamp_ofInt {n : Int} {t : Calendar.DateTime} (hfits : InWidth 64 n)
    (ht : Calendar.DateTime.ofNanos? n = some t) :
    timestamp.restore (.timestamp (Int64.ofInt n)) = .ok (.timestamp t) := by
  have hnanos : (Int64.ofInt n).toInt = n := Int64.toInt_ofInt_of_le hfits.1 hfits.2
  simp only [timestamp, hnanos, ht]

theorem store_timestamp_eq_ok_iff {t : Calendar.DateTime} {s : Stored} :
    timestamp.store (.timestamp t) = .ok s ↔
      ∃ n, t.toNanos? = some n ∧ s = .timestamp (Int64.ofInt n) := by
  simp only [timestamp]
  cases t.toNanos? with
  | none => exact iff_of_false nofun fun ⟨_, h, _⟩ => nomatch h
  | some n =>
    constructor
    · intro h
      cases h
      exact ⟨n, rfl, rfl⟩
    · rintro ⟨_, h, rfl⟩
      cases h
      rfl

/-! ## Parts -/

theorem storeEach_eq_mapM (cs : List Converter) (vs : List Native) :
    storeEach cs vs = (cs.zip vs).mapM fun p => p.1.toStored p.2 := by
  induction cs generalizing vs with
  | nil => rfl
  | cons c cs ih =>
    cases vs with
    | nil => rfl
    | cons v vs => rw [storeEach, List.zip_cons_cons, List.mapM_cons, ih]

theorem restoreEach_eq_mapM (cs : List Converter) (vs : List Stored) :
    restoreEach cs vs = (cs.zip vs).mapM fun p => p.1.toNative p.2 := by
  induction cs generalizing vs with
  | nil => rfl
  | cons c cs ih =>
    cases vs with
    | nil => rfl
    | cons v vs => rw [restoreEach, List.zip_cons_cons, List.mapM_cons, ih]

theorem storeAll_eq_mapM (c : Converter) (vs : List Native) : storeAll c vs = vs.mapM c.toStored := by
  induction vs with
  | nil => rfl
  | cons v vs ih => rw [storeAll, List.mapM_cons, ih]

theorem restoreAll_eq_mapM (c : Converter) (vs : List Stored) :
    restoreAll c vs = vs.mapM c.toNative := by
  induction vs with
  | nil => rfl
  | cons v vs ih => rw [restoreAll, List.mapM_cons, ih]

/-- Stores one entry, the key before the value. -/
def storeEntry (key value : Converter) (entry : Native × Native) :
    Except ConvertError (Stored × Stored) := do
  return (← key.toStored entry.1, ← value.toStored entry.2)

/-- Restores one entry, the key before the value. -/
def restoreEntry (key value : Converter) (entry : Stored × Stored) :
    Except ConvertError (Native × Native) := do
  return (← key.toNative entry.1, ← value.toNative entry.2)

theorem storeEntry_eq_ok_iff {key value : Converter} {e : Native × Native} {p : Stored × Stored} :
    storeEntry key value e = .ok p ↔ key.toStored e.1 = .ok p.1 ∧ value.toStored e.2 = .ok p.2 := by
  obtain ⟨k, v⟩ := p
  simp only [storeEntry, bind_eq_ok_iff, pure_eq_ok_iff, Prod.mk.injEq]
  constructor
  · rintro ⟨_, hk, _, hv, rfl, rfl⟩
    exact ⟨hk, hv⟩
  · rintro ⟨hk, hv⟩
    exact ⟨k, hk, v, hv, rfl, rfl⟩

theorem restoreEntry_eq_ok_iff {key value : Converter} {p : Stored × Stored} {e : Native × Native} :
    restoreEntry key value p = .ok e ↔ key.toNative p.1 = .ok e.1 ∧ value.toNative p.2 = .ok e.2 := by
  obtain ⟨k, v⟩ := e
  simp only [restoreEntry, bind_eq_ok_iff, pure_eq_ok_iff, Prod.mk.injEq]
  constructor
  · rintro ⟨_, hk, _, hv, rfl, rfl⟩
    exact ⟨hk, hv⟩
  · rintro ⟨hk, hv⟩
    exact ⟨k, hk, v, hv, rfl, rfl⟩

theorem storeEntries_eq_mapM (key value : Converter) (entries : List (Native × Native)) :
    storeEntries key value entries = entries.mapM (storeEntry key value) := by
  induction entries with
  | nil => rfl
  | cons e rest ih =>
    rw [storeEntries, List.mapM_cons, storeEntry, ih]
    simp only [bind_assoc, pure_bind]

theorem restoreEntries_eq_mapM (key value : Converter) (entries : List (Stored × Stored)) :
    restoreEntries key value entries = entries.mapM (restoreEntry key value) := by
  induction entries with
  | nil => rfl
  | cons e rest ih =>
    rw [restoreEntries, List.mapM_cons, restoreEntry, ih]
    simp only [bind_assoc, pure_bind]

theorem storeEach_eq_ok_iff {cs : List Converter} {vs : List Native} {ss : List Stored} :
    storeEach cs vs = .ok ss ↔
      List.Forall₂ (fun p s => p.1.toStored p.2 = .ok s) (cs.zip vs) ss := by
  rw [storeEach_eq_mapM, mapM_eq_ok_iff]

theorem restoreEach_eq_ok_iff {cs : List Converter} {ss : List Stored} {vs : List Native} :
    restoreEach cs ss = .ok vs ↔
      List.Forall₂ (fun p v => p.1.toNative p.2 = .ok v) (cs.zip ss) vs := by
  rw [restoreEach_eq_mapM, mapM_eq_ok_iff]

theorem storeAll_eq_ok_iff {c : Converter} {vs : List Native} {ss : List Stored} :
    storeAll c vs = .ok ss ↔ List.Forall₂ (fun v s => c.toStored v = .ok s) vs ss := by
  rw [storeAll_eq_mapM, mapM_eq_ok_iff]

theorem restoreAll_eq_ok_iff {c : Converter} {ss : List Stored} {vs : List Native} :
    restoreAll c ss = .ok vs ↔ List.Forall₂ (fun s v => c.toNative s = .ok v) ss vs := by
  rw [restoreAll_eq_mapM, mapM_eq_ok_iff]

theorem storeEntries_eq_ok_iff {key value : Converter} {es : List (Native × Native)}
    {ps : List (Stored × Stored)} :
    storeEntries key value es = .ok ps ↔
      List.Forall₂ (fun e p => key.toStored e.1 = .ok p.1 ∧ value.toStored e.2 = .ok p.2) es ps := by
  simp only [storeEntries_eq_mapM, mapM_eq_ok_iff, storeEntry_eq_ok_iff]

theorem restoreEntries_eq_ok_iff {key value : Converter} {ps : List (Stored × Stored)}
    {es : List (Native × Native)} :
    restoreEntries key value ps = .ok es ↔
      List.Forall₂ (fun p e => key.toNative p.1 = .ok e.1 ∧ value.toNative p.2 = .ok e.2) ps es := by
  simp only [restoreEntries_eq_mapM, mapM_eq_ok_iff, restoreEntry_eq_ok_iff]

/-! ## Variants -/

/-- The converter refuses the kind of the value. -/
def Mismatches (c : Converter) (value : Native) : Prop :=
  ∃ e, c.toStored value = .error e ∧ e.isMismatch = true

/-- One variant stores the value or refuses its kind; any other failure is final. -/
theorem storeVariant_cons_eq_ok_iff {value : Native} {c : Converter} {cs : List Converter} {tag : Nat}
    {s : Stored} :
    storeVariant value tag (c :: cs) = .ok s ↔
      tag ≤ 255 ∧ ((∃ t, c.toStored value = .ok t ∧ s = .union tag.toUInt8 t) ∨
        c.Mismatches value ∧ storeVariant value (tag + 1) cs = .ok s) := by
  rw [storeVariant]
  by_cases htag : 255 < tag
  · rw [if_pos htag]
    constructor
    · intro h
      cases h
    · rintro ⟨hle, _⟩
      omega
  · rw [if_neg htag]
    have hle : tag ≤ 255 := Nat.not_lt.1 htag
    constructor
    · intro h
      split at h
      next t ht =>
        cases h
        exact ⟨hle, .inl ⟨t, ht, rfl⟩⟩
      next e he =>
        split at h
        next hm => exact ⟨hle, .inr ⟨⟨e, he, hm⟩, h⟩⟩
        next => cases h
    · rintro ⟨_, ⟨t, ht, rfl⟩ | ⟨⟨e, he, hm⟩, hrest⟩⟩
      · rw [ht]
      · rw [he]
        show (if e.isMismatch then storeVariant value (tag + 1) cs else .error e) = .ok s
        rw [if_pos hm]
        exact hrest

/-- A union stores a value with the first variant that does not refuse its kind, and with no variant
whose tag would need more than eight bits. -/
theorem storeVariant_eq_ok_iff {value : Native} {cs : List Converter} {tag : Nat} {s : Stored} :
    storeVariant value tag cs = .ok s ↔
      ∃ i c t, cs[i]? = some c ∧ tag + i ≤ 255 ∧ (∀ d ∈ cs.take i, d.Mismatches value) ∧
        c.toStored value = .ok t ∧ s = .union (tag + i).toUInt8 t := by
  induction cs generalizing tag with
  | nil =>
    constructor
    · intro h
      cases h
    · rintro ⟨i, c, t, hc, _⟩
      cases hc
  | cons c cs ih =>
    rw [storeVariant_cons_eq_ok_iff, ih]
    constructor
    · rintro ⟨htag, ⟨t, ht, rfl⟩ | ⟨hm, i, d, t, hd, hle, hbefore, ht, rfl⟩⟩
      · exact ⟨0, c, t, rfl, htag, by simp, ht, rfl⟩
      · have hnext : tag + 1 + i = tag + (i + 1) := by omega
        refine ⟨i + 1, d, t, hd, by omega, ?_, ht, by rw [hnext]⟩
        rw [List.take_succ_cons, List.forall_mem_cons]
        exact ⟨hm, hbefore⟩
    · rintro ⟨i, d, t, hd, hle, hbefore, ht, rfl⟩
      refine ⟨by omega, ?_⟩
      cases i with
      | zero =>
        obtain rfl : c = d := by simpa using hd
        exact .inl ⟨t, ht, rfl⟩
      | succ i =>
        rw [List.take_succ_cons, List.forall_mem_cons] at hbefore
        have hnext : tag + (i + 1) = tag + 1 + i := by omega
        exact .inr ⟨hbefore.1, i, d, t, hd, by omega, hbefore.2, ht, by rw [hnext]⟩

theorem store_union_eq_ok_iff {value : Native} {cs : List Converter} {s : Stored} :
    (union cs).store value = .ok s ↔
      ∃ i c t, cs[i]? = some c ∧ i ≤ 255 ∧ (∀ d ∈ cs.take i, d.Mismatches value) ∧
        c.toStored value = .ok t ∧ s = .union i.toUInt8 t := by
  have h := @storeVariant_eq_ok_iff value cs 0 s
  simp only [Nat.zero_add] at h
  exact h

/-- A union restores a value with the variant that stored it. -/
theorem restore_union {cs : List Converter} {i : Nat} {c : Converter} (hc : cs[i]? = some c)
    (hle : i ≤ 255) (t : Stored) : (union cs).restore (.union i.toUInt8 t) = c.toNative t := by
  have htag : i.toUInt8.toNat = i := UInt8.toNat_ofNat_of_lt' (Nat.lt_succ_of_le hle)
  simp only [union, htag, hc]

end ColumnScan.Converter
