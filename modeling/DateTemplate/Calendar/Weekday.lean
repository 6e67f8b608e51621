/-!
# Days of the week

* `Weekday.index`, `Weekday.ofIndex`: the days numbered from Monday, 0 to 6, and modulo 7.
* `Weekday.daysSince`: how long ago a week that starts on a given day began.
* `Weekday.name`, `Weekday.abbreviation`: the English names, in full and as three letters.
-/

namespace DateTemplate

/-- A day of the week. -/
inductive Weekday where
  | monday | tuesday | wednesday | thursday | friday | saturday | sunday
deriving DecidableEq

namespace Weekday

/-- The days of a week that starts on Monday. -/
def all : List Weekday := [monday, tuesday, wednesday, thursday, friday, saturday, sunday]

/-- How many days after Monday the day comes. -/
def index : Weekday → Nat
  | monday => 0 | tuesday => 1 | wednesday => 2 | thursday => 3 | friday => 4 | saturday => 5
  | sunday => 6

/-- The day that comes `n` days after a Monday. -/
def ofIndex (n : Nat) : Weekday :=
  match n % 7 with
  | 0 => monday | 1 => tuesday | 2 => wednesday | 3 => thursday | 4 => friday | 5 => saturday
  | _ => sunday

theorem index_lt (w : Weekday) : w.index < 7 := by cases w <;> decide

@[simp] theorem index_ofIndex (n : Nat) : (ofIndex n).index = n % 7 := by
  have : n % 7 = 0 ∨ n % 7 = 1 ∨ n % 7 = 2 ∨ n % 7 = 3 ∨ n % 7 = 4 ∨ n % 7 = 5 ∨ n % 7 = 6 := by
    omega
  rcases this with h | h | h | h | h | h | h <;> simp [ofIndex, h, index]

@[simp] theorem ofIndex_index (w : Weekday) : ofIndex w.index = w := by cases w <;> rfl

/-- The place of the day in a week that starts with Monday as day 1. -/
def number (w : Weekday) : Nat := w.index + 1

/-- How many days ago, from 0 to 6, the last day `start` was. -/
def daysSince (w start : Weekday) : Nat := (w.index + 7 - start.index) % 7

/-- The English name. -/
def name : Weekday → String
  | monday => "Monday"
  | tuesday => "Tuesday"
  | wednesday => "Wednesday"
  | thursday => "Thursday"
  | friday => "Friday"
  | saturday => "Saturday"
  | sunday => "Sunday"

/-- The first three letters of the English name. -/
def abbreviation : Weekday → String
  | monday => "Mon"
  | tuesday => "Tue"
  | wednesday => "Wed"
  | thursday => "Thu"
  | friday => "Fri"
  | saturday => "Sat"
  | sunday => "Sun"

end Weekday

end DateTemplate
