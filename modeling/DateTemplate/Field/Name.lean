import DateTemplate.Calendar.Month
import DateTemplate.Calendar.Weekday
import DateTemplate.Clock
import DateTemplate.Field

/-!
# Names in fields

* `NameStyle.weekday`, `NameStyle.month`: the names of weekdays and months in a style.
* `LetterCase.meridiem`: the two letters for a half of the day.
-/

namespace DateTemplate

/-- The name of a weekday. -/
def NameStyle.weekday (w : Weekday) : NameStyle → String
  | full => w.name
  | short => w.abbreviation

/-- The name of a month. -/
def NameStyle.month (m : Month) : NameStyle → String
  | full => m.name
  | short => m.abbreviation

/-- The two letters for a half of the day. -/
def LetterCase.meridiem (m : Meridiem) : LetterCase → String
  | upper => match m with
    | .am => "AM"
    | .pm => "PM"
  | lower => match m with
    | .am => "am"
    | .pm => "pm"

end DateTemplate
