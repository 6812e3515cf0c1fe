import ColumnScan.Proofs.Calendar.Days

/-!
# Counting nanoseconds in words

The count of nanoseconds is made in words of 64 bits. Where the count itself has no room there is none,
and where it has, every step has room as well but in one second: a fraction that runs on from the second
00:12:42 of 21 September 1677 may reach the first count of 64 bits, but the count starts from that second
and leaves the word before the fraction is added. Main statement: `DateTime.toNanos?_eq_some_iff`.
-/

namespace ColumnScan.Calendar

theorem inWidth_64_iff {n : Int} :
    InWidth 64 n ↔ -9223372036854775808 ≤ n ∧ n < 9223372036854775808 := Iff.rfl

/-- A sum of which the first part and the whole are checked. -/
theorem inWord?_add_eq_some_iff {a b n : Int} :
    ((inWord? 64 a).bind fun sum => inWord? 64 (sum + b)) = some n ↔
      InWidth 64 a ∧ InWidth 64 n ∧ a + b = n := by
  rw [Option.bind_eq_some_iff]
  constructor
  · rintro ⟨sum, ha, hsum⟩
    obtain ⟨hfits, rfl⟩ := inWord?_eq_some_iff.1 ha
    exact ⟨hfits, inWord?_eq_some_iff.1 hsum⟩
  · rintro ⟨hfits, hsum⟩
    exact ⟨a, inWord?_of_inWidth hfits, inWord?_eq_some_iff.2 hsum⟩

namespace DateTime

variable {t : DateTime} {n : Int}

/-- The time lies in the second before that of the first count: 00:12:42 on 21 September 1677. -/
def IsBeforeFirst (t : DateTime) : Prop :=
  t.date = ⟨1677, 9, 21, by decide⟩ ∧ t.hour = 0 ∧ t.minute = 12 ∧ t.second = 42

instance (t : DateTime) : Decidable t.IsBeforeFirst := inferInstanceAs (Decidable (_ ∧ _))

theorem isBeforeFirst_iff : t.IsBeforeFirst ↔ t.toSeconds = -9223372038 := by
  have hday : Date.toDays ⟨1677, 9, 21, by decide⟩ = -106752 := by decide
  have hsecond := t.secondOfDay_lt
  obtain ⟨hh, hm, hs, -⟩ := t.isTime
  simp only [toSeconds, secondsPerDay] at hsecond ⊢
  constructor
  · rintro ⟨hdate, hhour, hminute, hsec⟩
    rw [hdate, hday, secondOfDay, hhour, hminute, hsec]
    rfl
  · intro h
    have hdays : t.date.toDays = -106752 := by omega
    refine ⟨Date.toDays_injective (hdays.trans hday.symm), ?_⟩
    rw [secondOfDay] at h
    omega

/-- A time has a count in words exactly if its count has room there, unless it lies in the second before
that of the first count. -/
theorem toNanos?_eq_some_iff :
    t.toNanos? = some n ↔ n = t.toNanos ∧ InWidth 64 n ∧ ¬t.IsBeforeFirst := by
  have htotal : t.toNanos = t.toSeconds * nanosPerSecond + t.nano := rfl
  obtain ⟨-, -, -, hnano⟩ := t.isTime
  rw [isBeforeFirst_iff, htotal, toNanos?]
  simp only [nanosPerSecond] at hnano ⊢
  split
  next hneg =>
    rw [Option.bind_eq_bind, inWord?_add_eq_some_iff]
    simp only [inWidth_64_iff]
    omega
  next hpos =>
    rw [Option.bind_eq_bind, inWord?_add_eq_some_iff]
    simp only [inWidth_64_iff]
    omega

/-- A fraction that runs on past its second is all that can lead from the second before the first count
into the word; after second 59 there is no such second. -/
theorem not_isBeforeFirst (h : t.isLeapSecond = false ∨ t.second = 59) (fits : InWidth 64 t.toNanos) :
    ¬t.IsBeforeFirst := by
  intro hbefore
  obtain hleap | hsecond := h
  · have hseconds := isBeforeFirst_iff.1 hbefore
    have hnano : t.nano < nanosPerSecond := by simpa [isLeapSecond] using hleap
    rw [toNanos, hseconds, inWidth_64_iff] at fits
    simp only [nanosPerSecond] at hnano fits
    omega
  · exact absurd (hsecond.symm.trans hbefore.2.2.2) (by decide)

theorem toNanos?_of_not_leap (h : t.isLeapSecond = false) (fits : InWidth 64 t.toNanos) :
    t.toNanos? = some t.toNanos :=
  toNanos?_eq_some_iff.2 ⟨rfl, fits, not_isBeforeFirst (.inl h) fits⟩

end DateTime

end ColumnScan.Calendar
