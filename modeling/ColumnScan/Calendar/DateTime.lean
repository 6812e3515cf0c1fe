import ColumnScan.Calendar.Date
import ColumnScan.Number.Signed

/-!
# Dates with a time of day

A date and a time of day to the nanosecond, without a time zone. The fraction may run on past one second,
which is how a leap second is told; it is usual after second 59 but may stand after every second.
`toNanos` counts the nanoseconds since the beginning of 1970, a leap second's fraction counted past its
second, `toNanos?` makes the same count in words of 64 bits, and `ofNanos?` finds the date and time of a
count, never a leap second.
-/

namespace ColumnScan.Calendar

/-- Nanoseconds of a second. -/
def nanosPerSecond : Nat := 1000000000

/-- Seconds of a day. -/
def secondsPerDay : Nat := 86400

/-- A time of day: a second may be twice as long as others. -/
def IsTime (hour minute second nano : Nat) : Prop :=
  hour < 24 ∧ minute < 60 ∧ second < 60 ∧ nano < 2 * nanosPerSecond

instance (hour minute second nano : Nat) : Decidable (IsTime hour minute second nano) :=
  inferInstanceAs (Decidable (_ ∧ _))

/-- A date and a time of day. -/
structure DateTime where
  date : Date
  hour : Nat
  minute : Nat
  second : Nat
  nano : Nat
  isTime : IsTime hour minute second nano
deriving DecidableEq

namespace DateTime

/-- The date with a time, if there is such a time. -/
def make? (date : Date) (hour minute second nano : Nat) : Option DateTime :=
  if h : IsTime hour minute second nano then some ⟨date, hour, minute, second, nano, h⟩ else none

/-- Whether the time lies in a leap second. -/
def isLeapSecond (t : DateTime) : Bool := nanosPerSecond ≤ t.nano

/-- The earlier date first, then the earlier time. -/
def cmp (a b : DateTime) : Ordering :=
  (a.date.cmp b.date).then <| (compare a.hour b.hour).then <| (compare a.minute b.minute).then <|
    (compare a.second b.second).then (compare a.nano b.nano)

instance : Ord DateTime := ⟨cmp⟩

/-- Whole seconds since midnight. -/
def secondOfDay (t : DateTime) : Nat := t.hour * 3600 + t.minute * 60 + t.second

/-- Whole seconds since the beginning of 1970. -/
def toSeconds (t : DateTime) : Int := t.date.toDays * secondsPerDay + t.secondOfDay

/-- Nanoseconds since the beginning of 1970. -/
def toNanos (t : DateTime) : Int := t.toSeconds * nanosPerSecond + t.nano

/-- Nanoseconds since the beginning of 1970, counted in words of 64 bits, if no step leaves its word.
Before 1970 the seconds in nanoseconds may have no room where the sum still has, so there the next second
is taken and the rest of it subtracted. -/
def toNanos? (t : DateTime) : Option Int :=
  if t.toSeconds < 0 then do
    let product ← inWord? 64 ((t.toSeconds + 1) * nanosPerSecond)
    inWord? 64 (product + (t.nano - nanosPerSecond))
  else do
    let product ← inWord? 64 (t.toSeconds * nanosPerSecond)
    inWord? 64 (product + t.nano)

/-- The date and time that is this number of nanoseconds after the beginning of 1970, if it is
within the calendar. -/
def ofNanos? (nanos : Int) : Option DateTime := do
  let seconds := nanos / nanosPerSecond
  let date ← Date.ofDays? (seconds / secondsPerDay)
  let rest := (seconds % secondsPerDay).toNat
  make? date (rest / 3600) (rest / 60 % 60) (rest % 60) (nanos % nanosPerSecond).toNat

/-- A fraction of a second with three, six or nine digits, as few as it needs. -/
def fractionText (nano : Nat) : List Char :=
  if nano = 0 then []
  else if nano % 1000000 = 0 then '.' :: padded 3 (nano / 1000000)
  else if nano % 1000 = 0 then '.' :: padded 6 (nano / 1000)
  else '.' :: padded 9 nano

/-- The time of day; a leap second is told as the second after its own, such as the second 60. -/
def timeText (t : DateTime) : List Char :=
  let leap := t.isLeapSecond
  let second := if leap then t.second + 1 else t.second
  let nano := if leap then t.nano - nanosPerSecond else t.nano
  padded 2 t.hour ++ ':' :: padded 2 t.minute ++ ':' :: padded 2 second ++ fractionText nano

/-- A date and a time with a space between. -/
def text (t : DateTime) : String := t.date.text ++ " " ++ String.ofList t.timeText

end DateTime

end ColumnScan.Calendar
