import DateTemplate.Calendar.Week
import DateTemplate.Instant
import DateTemplate.Specifier
import DateTemplate.Text.Decimal

/-!
# Derived numbers

Numbers that an instant can be shown with and that no layout reads back.

* `Derived.ofDirective?`: the specifiers that stand for them.
* `Derived.value`, `Derived.render`: what they are for an instant, and how they are shown.
-/

namespace DateTemplate

/-- A number that is worked out from an instant. -/
inductive Derived where
  /-- The hundreds of the year. -/
  | century
  /-- The year that the ISO week belongs to. -/
  | isoWeekYear
  /-- The last two digits of the year that the ISO week belongs to. -/
  | isoWeekYearOfCentury
  | isoWeek
  /-- The week of the year when weeks begin on Sunday. -/
  | sundayWeek
  /-- The week of the year when weeks begin on Monday. -/
  | mondayWeek
  /-- The day of the week, where Sunday is 0. -/
  | daysSinceSunday
  /-- The day of the week, where Monday is 1 and Sunday is 7. -/
  | weekdayNumber
  | hour
  /-- The hour on a 12-hour clock. -/
  | hour12
  /-- The seconds since the start of 1970. -/
  | unixSeconds
deriving DecidableEq

namespace Derived

/-- The number that a directive stands for. -/
def ofDirective? : Char → Option Derived
  | 'C' => some century
  | 'G' => some isoWeekYear
  | 'g' => some isoWeekYearOfCentury
  | 'V' => some isoWeek
  | 'U' => some sundayWeek
  | 'W' => some mondayWeek
  | 'w' => some daysSinceSunday
  | 'u' => some weekdayNumber
  | 'k' => some hour
  | 'l' => some hour12
  | 's' => some unixSeconds
  | _ => none

/-- What the number is for an instant. Negative years keep their sign in the century, and the last
two digits of an ISO year count up from the century before it. -/
def value (z : Instant) : Derived → Int
  | century => z.date.year.tdiv 100
  | isoWeekYear => z.date.isoWeekYear
  | isoWeekYearOfCentury => z.date.isoWeekYear % 100
  | isoWeek => z.date.isoWeek
  | sundayWeek => z.date.weekOfYear .sunday
  | mondayWeek => z.date.weekOfYear .monday
  | daysSinceSunday => z.date.weekday.daysSince .sunday
  | weekdayNumber => z.date.weekday.number
  | hour => z.time.hour
  | hour12 => z.time.hour12
  | unixSeconds => z.unixSeconds

/-- The characters that the number is filled up to. -/
def width : Derived → Nat
  | isoWeekYear => 4
  | daysSinceSunday | weekdayNumber | unixSeconds => 0
  | _ => 2

/-- What the number is filled up with. -/
def fill : Derived → Fill
  | hour | hour12 => .space
  | _ => .zero

/-- The number as text, filled up unless the specifier asks for no padding. -/
def render (z : Instant) (padded : Bool) (d : Derived) : List Char :=
  Decimal.padded d.fill (if padded then d.width else 0) (d.value z)

end Derived

/-- The derived number that a specifier stands for. -/
def Specifier.derived? (s : Specifier) : Option Derived := Derived.ofDirective? s.directive

end DateTemplate
