import DateTemplate.Field.Name
import DateTemplate.Instant
import DateTemplate.Text.Decimal

/-!
# Showing fields

* `Field.render`: the text of a field for an instant.
* `Item.render`: the same for an item, where a literal character is its own text.
-/

namespace DateTemplate

/-- What the quantity is for an instant. The last two digits of a negative year keep its sign. -/
def Quantity.value (z : Instant) : Quantity → Int
  | year => z.date.year
  | yearOfCentury => z.date.year.tmod 100
  | month => z.date.month.number
  | day => z.date.day
  | dayOfYear => z.date.dayOfYear
  | hour => z.time.hour
  | hour12 => z.time.hour12
  | minute => z.time.minute
  | second => z.time.second

/-- A number brought to a width. -/
def Padding.render (width : Nat) (n : Int) : Padding → List Char
  | zeros => Decimal.padded .zero width n
  | spaces => Decimal.padded .space width n
  | none => Decimal.padded .zero 0 n

/-- The fraction that a number of nanoseconds is of a second, cut off after the precision's
digits. -/
def Precision.render (nanosecond : Nat) (p : Precision) : List Char :=
  Decimal.padded .zero p.digits (nanosecond / p.unit : Nat)

namespace Offset

/-- The sign and the hours, which every text of an offset begins with. -/
def signedHours (o : Offset) : List Char :=
  (if o.isWest then '-' else '+') :: Decimal.padded .zero 2 o.hours

/-- Hours and minutes without a separator, and seconds if there are any. -/
def render (o : Offset) : List Char :=
  o.signedHours ++ Decimal.padded .zero 2 o.minutes ++
    if o.restSeconds = 0 then [] else Decimal.padded .zero 2 o.restSeconds

/-- The name of an offset that has no other: `UTC`, or hours, minutes and seconds with colons
between them, as far as they are needed. -/
def name (o : Offset) : List Char :=
  let minutes := ':' :: Decimal.padded .zero 2 o.minutes
  let seconds := ':' :: Decimal.padded .zero 2 o.restSeconds
  if o.seconds = 0 then ['U', 'T', 'C']
  else if o.restSeconds ≠ 0 then o.signedHours ++ minutes ++ seconds
  else if o.minutes ≠ 0 then o.signedHours ++ minutes
  else o.signedHours

end Offset

/-- The time zone's name: its abbreviation in capital letters, or else its offset's name. -/
def Instant.zoneName (z : Instant) : List Char :=
  match z.abbreviation with
  | some a => a.toList.map Char.toUpper
  | none => z.offset.name

/-- The text of a field. -/
def Field.render (z : Instant) : Field → List Char
  | number q p => p.render q.width (q.value z)
  | fraction p => p.render z.time.nanosecond
  | weekday s => (s.weekday z.date.weekday).toList
  | month s => (s.month z.date.month).toList
  | meridiem l => (l.meridiem z.time.meridiem).toList
  | offset => z.offset.render
  | zoneName => z.zoneName

/-- The text of an item. -/
def Item.render (z : Instant) : Item → List Char
  | literal c => [c]
  | field f => f.render z

end DateTemplate
