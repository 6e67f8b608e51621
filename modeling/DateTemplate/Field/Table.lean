import DateTemplate.Field
import DateTemplate.Specifier

/-!
# What specifiers stand for

* `Specifier.items?`: the items that a specifier stands for, which is also what a layout has in
  its place: a single field (`Specifier.field?`), several fields with literal characters between
  them (`Specifier.composite?`), or literal characters only (`Specifier.character?`).
* `lineTerminator`: the end of a line, for which `%n` stands.
-/

namespace DateTemplate

/-- What ends a line, on every system but Windows. -/
def lineTerminator : String := "\n"

namespace Item

/-- A number that is filled up with zeros. -/
def zeroed (q : Quantity) : Item := field (.number q .zeros)

/-- Hours and minutes on a 24-hour clock. -/
def hourMinute : List Item := [zeroed .hour, literal ':', zeroed .minute]

/-- Hours, minutes and seconds on a 24-hour clock. -/
def clock : List Item := hourMinute ++ [literal ':', zeroed .second]

/-- Hours, minutes and seconds on a 12-hour clock. -/
def clock12 : List Item :=
  [zeroed .hour12, literal ':', zeroed .minute, literal ':', zeroed .second, literal ' ',
    field (.meridiem .upper)]

/-- The names of the weekday and the month and the day of the month. -/
def namedDay : List Item :=
  [field (.weekday .short), literal ' ', field (.month .short), literal ' ',
    field (.number .day .spaces)]

end Item

namespace Specifier

open Item

/-- The field that a specifier stands for. The flag of a specifier has an effect where the field
can be shown without padding, and is ignored elsewhere. -/
def field? (s : Specifier) : Option Field :=
  let plain : Padding := if s.padded then .zeros else .none
  match s.directive with
  | 'A' => some (.weekday .full)
  | 'a' => some (.weekday .short)
  | 'B' => some (.month .full)
  | 'b' | 'h' => some (.month .short)
  | 'd' => some (.number .day plain)
  | 'e' => some (.number .day .spaces)
  | 'f' => some (.fraction .microseconds)
  | 'H' => some (.number .hour .zeros)
  | 'I' => some (.number .hour12 plain)
  | 'j' => some (.number .dayOfYear .zeros)
  | 'L' => some (.fraction .milliseconds)
  | 'M' => some (.number .minute plain)
  | 'm' => some (.number .month plain)
  | 'N' => some (.fraction .nanoseconds)
  | 'P' => some (.meridiem .lower)
  | 'p' => some (.meridiem .upper)
  | 'S' => some (.number .second plain)
  | 'Y' => some (.number .year .zeros)
  | 'y' => some (.number .yearOfCentury .zeros)
  | 'Z' => some .zoneName
  | 'z' => some .offset
  | _ => none

/-- The items that a specifier for several fields stands for. -/
def composite? (s : Specifier) : Option (List Item) :=
  match s.directive with
  | 'c' => some (namedDay ++ [literal ' '] ++ clock ++ [literal ' ', zeroed .year])
  | 'D' | 'x' =>
    some [zeroed .month, literal '/', zeroed .day, literal '/', zeroed .yearOfCentury]
  | 'F' => some [zeroed .year, literal '-', zeroed .month, literal '-', zeroed .day]
  | 'R' => some hourMinute
  | 'r' => some clock12
  | 'T' | 'X' => some clock
  | 'v' =>
    some [field (.number .day .spaces), literal '-', field (.month .short), literal '-',
      zeroed .year]
  | '+' =>
    some (namedDay ++ [literal ' '] ++ clock ++
      [literal ' ', field .zoneName, literal ' ', zeroed .year])
  | _ => none

/-- The text that a specifier for a fixed text stands for. -/
def character? (s : Specifier) : Option String :=
  match s.directive with
  | '%' => some "%"
  | 't' => some "\t"
  | 'n' => some lineTerminator
  | _ => none

/-- The items that a specifier stands for, if it is one that can be put into a layout. -/
def items? (s : Specifier) : Option (List Item) :=
  (s.field?.map fun f => [.field f]) <|> s.composite? <|> s.character?.map literals

end Specifier

end DateTemplate
