import ColumnScan.Calendar.DateTime

/-!
# Counting days and nanoseconds

Days are counted by years and months, and every day lies in exactly one year and in exactly one of
its months, so a date is found again from its count. So is a date with a time of day from its
nanoseconds, unless it lies in a leap second. Main statements: `Date.ofDays?_toDays`,
`Date.toDays_of_ofDays?`, `DateTime.ofNanos?_toNanos` and `DateTime.toNanos_of_ofNanos?`.
-/

namespace ColumnScan.Calendar

/-! ## Years -/

/-- The number of days of a year. -/
def daysInYear (leap : Bool) : Nat := if leap then 366 else 365

theorem daysBeforeYear_succ (year : Int) :
    daysBeforeYear (year + 1) = daysBeforeYear year + daysInYear (isLeapYear year) := by
  simp only [daysBeforeYear, daysInYear]
  have hleap : isLeapYear year = true ↔ year % 4 = 0 ∧ (year % 100 ≠ 0 ∨ year % 400 = 0) := by
    simp [isLeapYear]
  split
  next h =>
    have := hleap.1 h
    omega
  next h =>
    have := mt hleap.2 h
    omega

theorem daysBeforeYear_mono {y z : Int} (h : y ≤ z) : daysBeforeYear y ≤ daysBeforeYear z := by
  simp only [daysBeforeYear]
  omega

/-- The year of a day begins with or before it and ends after it. -/
theorem yearOfDays_bounds (n : Int) :
    daysBeforeYear (yearOfDays n) ≤ n ∧ n < daysBeforeYear (yearOfDays n + 1) := by
  unfold yearOfDays
  dsimp only
  -- The estimate is at most one year off to either side.
  have hlow : daysBeforeYear (n * 400 / 146097 + 1 - 1) ≤ n := by
    simp only [daysBeforeYear]
    omega
  have hhigh : n < daysBeforeYear (n * 400 / 146097 + 1 + 1 + 1) := by
    simp only [daysBeforeYear]
    omega
  split
  next h => exact ⟨hlow, by rwa [Int.sub_add_cancel]⟩
  next h =>
    split
    next h' => exact ⟨h', hhigh⟩
    next h' => exact ⟨Int.not_lt.1 h, Int.not_le.1 h'⟩

theorem yearOfDays_eq {n year : Int} (hlow : daysBeforeYear year ≤ n)
    (hhigh : n < daysBeforeYear (year + 1)) : yearOfDays n = year := by
  obtain ⟨hlow', hhigh'⟩ := yearOfDays_bounds n
  rcases Int.lt_trichotomy (yearOfDays n) year with h | h | h
  · have := daysBeforeYear_mono (y := yearOfDays n + 1) (z := year) (by omega)
    omega
  · exact h
  · have := daysBeforeYear_mono (y := year + 1) (z := yearOfDays n) (by omega)
    omega

/-! ## Months -/

theorem monthOfDays_bounds (leap : Bool) (n : Nat) (h : n < daysInYear leap) :
    (1 ≤ monthOfDays leap n ∧ monthOfDays leap n ≤ 12) ∧
      daysBeforeMonth leap (monthOfDays leap n) ≤ n ∧
      n < daysBeforeMonth leap (monthOfDays leap n + 1) := by
  have hall : ∀ leap, ∀ n < daysInYear leap,
      (1 ≤ monthOfDays leap n ∧ monthOfDays leap n ≤ 12) ∧
        daysBeforeMonth leap (monthOfDays leap n) ≤ n ∧
        n < daysBeforeMonth leap (monthOfDays leap n + 1) := by decide +kernel
  exact hall leap n h

theorem daysBeforeMonth_mono (leap : Bool) {m k : Nat} (h : m ≤ k) (hk : k ≤ 13) :
    daysBeforeMonth leap m ≤ daysBeforeMonth leap k := by
  have hall : ∀ leap, ∀ k ≤ 13, ∀ m ≤ k, daysBeforeMonth leap m ≤ daysBeforeMonth leap k := by
    decide +kernel
  exact hall leap k hk m h

theorem daysBeforeMonth_thirteen (leap : Bool) : daysBeforeMonth leap 13 = daysInYear leap := by
  cases leap <;> rfl

theorem monthOfDays_eq {leap : Bool} {n month : Nat} (hmonth : 1 ≤ month ∧ month ≤ 12)
    (hlow : daysBeforeMonth leap month ≤ n) (hhigh : n < daysBeforeMonth leap (month + 1)) :
    monthOfDays leap n = month := by
  have hyear : n < daysInYear leap := by
    have := daysBeforeMonth_mono leap (m := month + 1) (k := 13) (by omega) (by omega)
    rw [daysBeforeMonth_thirteen] at this
    omega
  obtain ⟨hmonth', hlow', hhigh'⟩ := monthOfDays_bounds leap n hyear
  rcases Nat.lt_trichotomy (monthOfDays leap n) month with h | h | h
  · have := daysBeforeMonth_mono leap (m := monthOfDays leap n + 1) (k := month) h (by omega)
    omega
  · exact h
  · have := daysBeforeMonth_mono leap (m := month + 1) (k := monthOfDays leap n) h (by omega)
    omega

/-! ## Dates -/

namespace Date

/-- The days of the year before a date. -/
def dayOfYear (d : Date) : Nat := daysBeforeMonth (isLeapYear d.year) d.month + (d.day - 1)

theorem toDays_eq (d : Date) : d.toDays = daysBeforeYear d.year + d.dayOfYear - epochDays := by
  obtain ⟨_, _, hday, _⟩ := d.isDate
  unfold toDays dayOfYear
  omega

theorem dayOfYear_bounds (d : Date) :
    daysBeforeMonth (isLeapYear d.year) d.month ≤ d.dayOfYear ∧
      d.dayOfYear < daysBeforeMonth (isLeapYear d.year) (d.month + 1) := by
  obtain ⟨_, hmonth, hday, hdays⟩ := d.isDate
  have := daysBeforeMonth_mono (isLeapYear d.year) (Nat.le_succ d.month) (by omega)
  unfold daysInMonth at hdays
  unfold dayOfYear
  omega

theorem dayOfYear_lt (d : Date) : d.dayOfYear < daysInYear (isLeapYear d.year) := by
  have hmonth := d.isDate.2.1
  have := daysBeforeMonth_mono (isLeapYear d.year) (m := d.month + 1) (k := 13) (by omega) (by omega)
  rw [daysBeforeMonth_thirteen] at this
  have := d.dayOfYear_bounds
  omega

/-- A date is found again from its count. -/
theorem ofDays?_toDays (d : Date) : ofDays? d.toDays = some d := by
  have hyear : yearOfDays (d.toDays + epochDays) = d.year := by
    have := d.dayOfYear_lt
    apply yearOfDays_eq
    · rw [toDays_eq]
      omega
    · rw [toDays_eq, daysBeforeYear_succ]
      omega
  have hrest : (d.toDays + epochDays - daysBeforeYear d.year).toNat = d.dayOfYear := by
    rw [toDays_eq]
    omega
  have hmonth : monthOfDays (isLeapYear d.year) d.dayOfYear = d.month :=
    monthOfDays_eq d.isDate.2.1 d.dayOfYear_bounds.1 d.dayOfYear_bounds.2
  have hday : d.dayOfYear - daysBeforeMonth (isLeapYear d.year) d.month + 1 = d.day := by
    have := d.isDate.2.2.1
    rw [dayOfYear]
    omega
  rw [ofDays?]
  simp only [hyear, hrest, hmonth, hday]
  exact make?_eq_some_iff.2 ⟨rfl, rfl, rfl⟩

/-- The date found for a count has that count. -/
theorem toDays_of_ofDays? {n : Int} {d : Date} (h : ofDays? n = some d) : d.toDays = n := by
  obtain ⟨hyear, hmonth, hday⟩ := make?_eq_some_iff.1 h
  obtain ⟨hlow, hhigh⟩ := yearOfDays_bounds (n + epochDays)
  rw [daysBeforeYear_succ] at hhigh
  have hbounds := monthOfDays_bounds (isLeapYear (yearOfDays (n + epochDays)))
    (n + epochDays - daysBeforeYear (yearOfDays (n + epochDays))).toNat (by omega)
  rw [toDays, hyear, hmonth, hday]
  omega

/-- The first day of the calendar. -/
def first : Date := ⟨firstYear, 1, 1, by decide⟩

/-- The last day of the calendar. -/
def last : Date := ⟨lastYear, 12, 31, by decide⟩

theorem toDays_first : first.toDays = -96465292 := by decide

theorem toDays_last : last.toDays = 95026236 := by decide

/-- The counts of all dates lie between those of the first and the last day, far within 32 bits. -/
theorem toDays_bounds (d : Date) : first.toDays ≤ d.toDays ∧ d.toDays ≤ last.toDays := by
  obtain ⟨⟨hfirst, hlast⟩, _⟩ := d.isDate
  have hlow := daysBeforeYear_mono hfirst
  have hhigh := daysBeforeYear_mono (Int.add_le_add_right hlast 1)
  have hday := d.dayOfYear_lt
  have hyear := daysBeforeYear_succ d.year
  have hf : daysBeforeYear firstYear = -95746130 := by decide
  have hl : daysBeforeYear (lastYear + 1) = 95745399 := by decide
  rw [toDays_first, toDays_last, toDays_eq, epochDays]
  omega

/-- Every count between those of the first and the last day has a date. -/
theorem exists_ofDays? {n : Int} (h : first.toDays ≤ n ∧ n ≤ last.toDays) :
    ∃ d, ofDays? n = some d := by
  rw [toDays_first, toDays_last] at h
  obtain ⟨hlow, hhigh⟩ := yearOfDays_bounds (n + epochDays)
  have hfirst : firstYear ≤ yearOfDays (n + epochDays) := by
    apply Int.not_lt.1
    intro hlt
    have := daysBeforeYear_mono (Int.add_one_le_of_lt hlt)
    have hf : daysBeforeYear firstYear = -95746130 := by decide
    rw [epochDays] at *
    omega
  have hlast : yearOfDays (n + epochDays) ≤ lastYear := by
    apply Int.not_lt.1
    intro hlt
    have := daysBeforeYear_mono (Int.add_one_le_of_lt hlt)
    have hl : daysBeforeYear (lastYear + 1) = 95745399 := by decide
    rw [epochDays] at *
    omega
  rw [daysBeforeYear_succ] at hhigh
  obtain ⟨hmonth, hbounds⟩ := monthOfDays_bounds (isLeapYear (yearOfDays (n + epochDays)))
    (n + epochDays - daysBeforeYear (yearOfDays (n + epochDays))).toNat (by omega)
  refine ⟨⟨_, _, _, ⟨⟨hfirst, hlast⟩, hmonth, Nat.le_add_left .., ?_⟩⟩,
    make?_eq_some_iff.2 ⟨rfl, rfl, rfl⟩⟩
  unfold daysInMonth
  omega

/-- Exactly the date with a count is found for it. -/
theorem ofDays?_eq_some_iff {n : Int} {d : Date} : ofDays? n = some d ↔ d.toDays = n :=
  ⟨toDays_of_ofDays?, fun h => h ▸ d.ofDays?_toDays⟩

theorem toDays_injective : Function.Injective toDays := by
  intro a b h
  have hfound := a.ofDays?_toDays
  rw [h, ofDays?_toDays] at hfound
  exact (Option.some.inj hfound).symm

end Date

/-! ## Dates with a time of day -/

namespace DateTime

theorem secondOfDay_lt (t : DateTime) : t.secondOfDay < secondsPerDay := by
  obtain ⟨hh, hm, hs, _⟩ := t.isTime
  unfold secondOfDay secondsPerDay
  omega

/-- A date and time that lie in no leap second are found again from their count. -/
theorem ofNanos?_toNanos {t : DateTime} (h : t.isLeapSecond = false) :
    ofNanos? t.toNanos = some t := by
  have hnano : t.nano < nanosPerSecond := by simpa [isLeapSecond] using h
  have hsecond := t.secondOfDay_lt
  have hseconds : t.toNanos / nanosPerSecond = t.date.toDays * secondsPerDay + t.secondOfDay := by
    simp only [toNanos, toSeconds, nanosPerSecond] at hnano ⊢
    omega
  have hnanos : (t.toNanos % nanosPerSecond).toNat = t.nano := by
    simp only [toNanos, toSeconds, nanosPerSecond] at hnano ⊢
    omega
  have hdays : (t.date.toDays * secondsPerDay + t.secondOfDay) / secondsPerDay = t.date.toDays := by
    simp only [secondsPerDay] at hsecond ⊢
    omega
  have hrest : ((t.date.toDays * secondsPerDay + t.secondOfDay) % secondsPerDay).toNat =
      t.secondOfDay := by
    simp only [secondsPerDay] at hsecond ⊢
    omega
  obtain ⟨hh, hm, hs, _⟩ := t.isTime
  have hhour : t.secondOfDay / 3600 = t.hour := by rw [secondOfDay]; omega
  have hminute : t.secondOfDay / 60 % 60 = t.minute := by rw [secondOfDay]; omega
  have hsec : t.secondOfDay % 60 = t.second := by rw [secondOfDay]; omega
  rw [ofNanos?]
  simp only [hseconds, hdays, hrest, hnanos, hhour, hminute, hsec, Date.ofDays?_toDays,
    Option.bind_eq_bind, Option.bind_some]
  rw [make?, dif_pos t.isTime]

/-- The date and time found for a count have that count. -/
theorem toNanos_of_ofNanos? {n : Int} {t : DateTime} (h : ofNanos? n = some t) : t.toNanos = n := by
  obtain ⟨d, hd, h⟩ := Option.bind_eq_some_iff.1 h
  have hdays := Date.toDays_of_ofDays? hd
  rw [make?] at h
  split at h
  · cases h
    simp only [toNanos, toSeconds, secondOfDay, hdays, nanosPerSecond, secondsPerDay]
    omega
  · cases h

/-- What is found for a count lies in no leap second. -/
theorem isLeapSecond_of_ofNanos? {n : Int} {t : DateTime} (h : ofNanos? n = some t) : t.isLeapSecond = false := by
  obtain ⟨d, -, h⟩ := Option.bind_eq_some_iff.1 h
  rw [make?] at h
  split at h
  · cases h
    refine decide_eq_false ?_
    simp only [nanosPerSecond]
    omega
  · cases h

/-- Every count of 64 bits has a date and time. -/
theorem exists_ofNanos? {n : Int} (h : InWidth 64 n) : ∃ t, ofNanos? n = some t := by
  have hn : -9223372036854775808 ≤ n ∧ n < 9223372036854775808 := h
  obtain ⟨d, hd⟩ : ∃ d, Date.ofDays? (n / nanosPerSecond / secondsPerDay) = some d := by
    apply Date.exists_ofDays?
    rw [Date.toDays_first, Date.toDays_last]
    simp only [nanosPerSecond, secondsPerDay]
    omega
  rw [ofNanos?]
  simp only [hd, Option.bind_eq_bind, Option.bind_some]
  refine ⟨⟨d, _, _, _, _, ?_⟩, dif_pos ?_⟩
  all_goals
    simp only [IsTime, nanosPerSecond, secondsPerDay]
    omega

end DateTime

end ColumnScan.Calendar
