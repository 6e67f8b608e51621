/-!
# Years of the proleptic Gregorian calendar

The calendar runs backwards without a break: year 0 comes before year 1, and is a leap year.
Days are numbered from January 1 of year 0.

* `Year.isLeap`, `Year.length`: the leap year rule and the number of days of a year.
* `Year.daysBefore`: the number of the first day of a year. `daysBefore_succ` says that the years
  follow each other without a gap.
* `Year.ofDayNumber`: the year that a day falls in. `ofDayNumber_eq_iff` says that this is the year
  whose days surround it.
-/

namespace DateTemplate.Year

/-- Every fourth year is a leap year, except the centuries that 400 does not divide. -/
def isLeap (y : Int) : Bool := y % 4 == 0 && (y % 100 != 0 || y % 400 == 0)

/-- The number of days of a year, leap or not. -/
def lengthOf (leap : Bool) : Nat := if leap then 366 else 365

/-- The number of days of a given year. -/
def length (y : Int) : Nat := lengthOf (isLeap y)

/-- The number of January 1 of a year. -/
def daysBefore (y : Int) : Int := 365 * y + (y + 3) / 4 - (y + 99) / 100 + (y + 399) / 400

theorem isLeap_iff {y : Int} : isLeap y = true ↔ y % 4 = 0 ∧ (y % 100 ≠ 0 ∨ y % 400 = 0) := by
  simp [isLeap]

theorem daysBefore_succ (y : Int) : daysBefore (y + 1) = daysBefore y + length y := by
  unfold daysBefore length lengthOf
  split
  · have := isLeap_iff.1 ‹_›
    omega
  · have : ¬ (y % 4 = 0 ∧ (y % 100 ≠ 0 ∨ y % 400 = 0)) := mt isLeap_iff.2 ‹_›
    omega

theorem length_pos (y : Int) : 0 < length y := by unfold length lengthOf; split <;> decide

theorem daysBefore_lt {y z : Int} (h : y < z) : daysBefore y < daysBefore z := by
  unfold daysBefore
  omega

private theorem daysBefore_succ_le {y z : Int} (h : y < z) : daysBefore (y + 1) ≤ daysBefore z := by
  rcases Int.lt_or_eq_of_le (Int.add_one_le_of_lt h) with h | h
  · exact Int.le_of_lt (daysBefore_lt h)
  · exact Int.le_of_eq (congrArg daysBefore h)

/-- The year that the day with number `n` falls in. 400 years have 146097 days, and no year is off
the average by more than one. -/
def ofDayNumber (n : Int) : Int :=
  let y := 400 * n / 146097
  if n < daysBefore y then y - 1 else if daysBefore (y + 1) ≤ n then y + 1 else y

theorem daysBefore_ofDayNumber_le (n : Int) : daysBefore (ofDayNumber n) ≤ n := by
  unfold ofDayNumber
  simp only
  split
  · unfold daysBefore
    omega
  · split <;> omega

theorem lt_daysBefore_ofDayNumber_succ (n : Int) : n < daysBefore (ofDayNumber n + 1) := by
  unfold ofDayNumber
  simp only
  split
  · rwa [Int.sub_add_cancel]
  · split
    · unfold daysBefore
      omega
    · omega

theorem ofDayNumber_eq_iff {n y : Int} :
    ofDayNumber n = y ↔ daysBefore y ≤ n ∧ n < daysBefore (y + 1) := by
  have h₁ := daysBefore_ofDayNumber_le n
  have h₂ := lt_daysBefore_ofDayNumber_succ n
  constructor
  · rintro rfl
    exact ⟨h₁, h₂⟩
  · rintro ⟨h₃, h₄⟩
    generalize ofDayNumber n = z at h₁ h₂ ⊢
    rcases Int.lt_trichotomy z y with h | h | h
    · have := daysBefore_succ_le h
      omega
    · exact h
    · have := daysBefore_succ_le h
      omega

end DateTemplate.Year
