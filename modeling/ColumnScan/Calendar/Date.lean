/-!
# Calendar dates

Dates of the Gregorian calendar, carried on before its introduction, over a bounded range of years.
A date is a year, a month and a day; `toDays` counts the days since 1 January 1970 and `ofDays?`
finds the date of a count. Main statement: `make?_eq_some_iff`, exactly the days of the calendar are
dates.
-/

namespace ColumnScan.Calendar

/-- Whether the year has a 29 February. -/
def isLeapYear (year : Int) : Bool := year % 4 == 0 && (year % 100 != 0 || year % 400 == 0)

/-- The days of the year before the first of a month. -/
def daysBeforeMonth (leap : Bool) (month : Nat) : Nat :=
  let plain := match month with
    | 0 | 1 => 0
    | 2 => 31
    | 3 => 59
    | 4 => 90
    | 5 => 120
    | 6 => 151
    | 7 => 181
    | 8 => 212
    | 9 => 243
    | 10 => 273
    | 11 => 304
    | 12 => 334
    | _ => 365
  if leap && decide (2 < month) then plain + 1 else plain

/-- The number of days of a month. -/
def daysInMonth (leap : Bool) (month : Nat) : Nat :=
  daysBeforeMonth leap (month + 1) - daysBeforeMonth leap month

/-- The first year of the calendar. -/
def firstYear : Int := -262143

/-- The last year of the calendar. -/
def lastYear : Int := 262142

/-- The month and the day exist in the year, and the year is within the range. -/
def IsDate (year : Int) (month day : Nat) : Prop :=
  (firstYear ≤ year ∧ year ≤ lastYear) ∧ (1 ≤ month ∧ month ≤ 12) ∧
    1 ≤ day ∧ day ≤ daysInMonth (isLeapYear year) month

instance (year : Int) (month day : Nat) : Decidable (IsDate year month day) :=
  inferInstanceAs (Decidable (_ ∧ _))

/-- A day of the calendar. -/
structure Date where
  year : Int
  month : Nat
  day : Nat
  isDate : IsDate year month day
deriving DecidableEq

namespace Date

/-- The date of a year, a month and a day, if there is such a day. -/
def make? (year : Int) (month day : Nat) : Option Date :=
  if h : IsDate year month day then some ⟨year, month, day, h⟩ else none

theorem make?_eq_some_iff {y : Int} {m n : Nat} {d : Date} :
    make? y m n = some d ↔ d.year = y ∧ d.month = m ∧ d.day = n := by
  unfold make?
  constructor
  · intro h
    split at h
    · cases h; exact ⟨rfl, rfl, rfl⟩
    · cases h
  · rintro ⟨rfl, rfl, rfl⟩
    rw [dif_pos d.isDate]

/-- Year by year, month by month, day by day. -/
def cmp (a b : Date) : Ordering :=
  (compare a.year b.year).then ((compare a.month b.month).then (compare a.day b.day))

instance : Ord Date := ⟨cmp⟩

end Date

/-- The days from 1 January of the year 1 to 1 January of a year. -/
def daysBeforeYear (year : Int) : Int :=
  let y := year - 1
  365 * y + y / 4 - y / 100 + y / 400

/-- The days from 1 January of the year 1 to 1 January 1970. -/
def epochDays : Int := 719162

/-- The days since 1 January 1970; negative before it. -/
def Date.toDays (d : Date) : Int :=
  daysBeforeYear d.year + daysBeforeMonth (isLeapYear d.year) d.month + (d.day - 1 : Int) - epochDays

/-- The year in which a day lies that is `n` days after 1 January of the year 1. A mean year has
146097 / 400 days, so the first guess is off by one at most. -/
def yearOfDays (n : Int) : Int :=
  let guess := n * 400 / 146097 + 1
  if n < daysBeforeYear guess then guess - 1
  else if daysBeforeYear (guess + 1) ≤ n then guess + 1
  else guess

/-- The month in which the day number `n` of a year lies, counted from zero. -/
def monthOfDays (leap : Bool) (n : Nat) : Nat :=
  1 + (List.range' 2 11).countP fun month => decide (daysBeforeMonth leap month ≤ n)

/-- The date that is this number of days after 1 January 1970, if it is within the calendar. -/
def Date.ofDays? (days : Int) : Option Date :=
  let n := days + epochDays
  let year := yearOfDays n
  let leap := isLeapYear year
  let rest := (n - daysBeforeYear year).toNat
  let month := monthOfDays leap rest
  Date.make? year month (rest - daysBeforeMonth leap month + 1)

/-- A number with zeros in front up to a width. -/
def padded (width n : Nat) : List Char :=
  let digits := Nat.toDigits 10 n
  List.replicate (width - digits.length) '0' ++ digits

/-- A year with at least four digits, with a sign when it has not exactly four or is negative. -/
def yearText (year : Int) : List Char :=
  let sign := if year < 0 then ['-'] else if 9999 < year then ['+'] else []
  sign ++ padded 4 year.natAbs

/-- A date as year, month and day. -/
def Date.text (d : Date) : String :=
  String.ofList (yearText d.year ++ '-' :: padded 2 d.month ++ '-' :: padded 2 d.day)

end ColumnScan.Calendar
