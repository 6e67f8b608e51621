import DateTemplate.Calendar.Year

/-!
# Months

* `Month.length`, `Month.daysBefore`: the days of a month, and those of the year before it.
* `Month.ofDayOfYear`: the month that a day of the year falls in. `ofDayOfYear_eq_iff` says that
  this is the month whose days surround it.
* `Month.name`, `Month.abbreviation`: the English names, in full and as three letters.
-/

namespace DateTemplate

/-- A month of the year. -/
inductive Month where
  | january | february | march | april | may | june | july | august | september | october
  | november | december
deriving DecidableEq

namespace Month

/-- The months of a year in order. -/
def all : List Month :=
  [january, february, march, april, may, june, july, august, september, october, november,
    december]

/-- The place of the month in the year, from 1 to 12. -/
def number : Month → Nat
  | january => 1 | february => 2 | march => 3 | april => 4 | may => 5 | june => 6 | july => 7
  | august => 8 | september => 9 | october => 10 | november => 11 | december => 12

/-- The month with the given place in the year. -/
def ofNumber? (n : Nat) : Option Month := all.find? fun m => m.number = n

@[simp] theorem ofNumber?_number (m : Month) : ofNumber? m.number = some m := by cases m <;> rfl

/-- The number of days of the month, in a leap year or not. -/
def length (leap : Bool) : Month → Nat
  | february => if leap then 29 else 28
  | april | june | september | november => 30
  | _ => 31

/-- The number of days of the year before the month begins. -/
def daysBefore (leap : Bool) (m : Month) : Nat :=
  ((all.take (m.number - 1)).map (length leap)).foldr (· + ·) 0

/-- The month that the `n`-th day of a year falls in. -/
def ofDayOfYear (leap : Bool) (n : Nat) : Month :=
  (all.find? fun m => n ≤ m.daysBefore leap + m.length leap).getD december

theorem daysBefore_add_length_le (leap : Bool) (m : Month) :
    m.daysBefore leap + m.length leap ≤ Year.lengthOf leap := by
  cases leap <;> cases m <;> decide

private theorem ofDayOfYear_bounds : ∀ leap : Bool, ∀ n < 367, 1 ≤ n → n ≤ Year.lengthOf leap →
    (ofDayOfYear leap n).daysBefore leap < n ∧
      n ≤ (ofDayOfYear leap n).daysBefore leap + (ofDayOfYear leap n).length leap := by
  decide +kernel

/-- The days of a month end before those of a later month begin. -/
theorem daysBefore_add_length_le_daysBefore (leap : Bool) {m m' : Month}
    (h : m.number < m'.number) :
    m.daysBefore leap + m.length leap ≤ m'.daysBefore leap := by
  revert h
  cases leap <;> cases m <;> cases m' <;> decide

theorem number_inj {m m' : Month} (h : m.number = m'.number) : m = m' := by
  revert h
  cases m <;> cases m' <;> decide

theorem ofDayOfYear_eq_iff {leap : Bool} {n : Nat} (h₁ : 1 ≤ n) (h₂ : n ≤ Year.lengthOf leap)
    (m : Month) :
    ofDayOfYear leap n = m ↔ m.daysBefore leap < n ∧ n ≤ m.daysBefore leap + m.length leap := by
  have hn : n < 367 := by unfold Year.lengthOf at h₂; split at h₂ <;> omega
  have hb := ofDayOfYear_bounds leap n hn h₁ h₂
  constructor
  · rintro rfl
    exact hb
  · intro hm
    generalize ofDayOfYear leap n = m' at hb
    apply number_inj
    rcases Nat.lt_trichotomy m'.number m.number with h | h | h
    · have := daysBefore_add_length_le_daysBefore leap h
      omega
    · exact h
    · have := daysBefore_add_length_le_daysBefore leap h
      omega

/-- The English name. -/
def name : Month → String
  | january => "January"
  | february => "February"
  | march => "March"
  | april => "April"
  | may => "May"
  | june => "June"
  | july => "July"
  | august => "August"
  | september => "September"
  | october => "October"
  | november => "November"
  | december => "December"

/-- The first three letters of the English name. -/
def abbreviation : Month → String
  | january => "Jan"
  | february => "Feb"
  | march => "Mar"
  | april => "Apr"
  | may => "May"
  | june => "Jun"
  | july => "Jul"
  | august => "Aug"
  | september => "Sep"
  | october => "Oct"
  | november => "Nov"
  | december => "Dec"

end Month

end DateTemplate
