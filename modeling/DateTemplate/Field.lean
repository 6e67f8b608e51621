/-!
# Fields of a date template

A field stands for one part of an instant. What is shown for it can also be read back, except for
a time zone's name. An item is a field or a literal character, and a sequence of items is a
complete description of a text.

* `Field`, `Item`: the fields, and the pieces of a description.
* `Field.directive`, `Item.text`: how a description is written down.
* `Item.startsWithNumber`, `Item.endsWithOpenNumber`: whether a sequence begins with a number, and
  whether it ends with one whose width is not fixed.
-/

namespace DateTemplate

/-- A number that an instant tells. -/
inductive Quantity where
  | year
  /-- The last two digits of the year. -/
  | yearOfCentury
  | month
  | day
  | dayOfYear
  | hour
  /-- The hour on a 12-hour clock. -/
  | hour12
  | minute
  | second
deriving DecidableEq

namespace Quantity

/-- The characters that the quantity takes up: it is filled up to this many, and as many digits
are read at most. -/
def width : Quantity → Nat
  | year => 4
  | dayOfYear => 3
  | _ => 2

/-- The letter that stands for the quantity in a directive. -/
def letter : Quantity → Char
  | year => 'Y'
  | yearOfCentury => 'y'
  | month => 'm'
  | day => 'd'
  | dayOfYear => 'j'
  | hour => 'H'
  | hour12 => 'I'
  | minute => 'M'
  | second => 'S'

end Quantity

/-- How a number is brought to its width. -/
inductive Padding where
  | zeros
  | spaces
  /-- The number is left as it is. -/
  | none
deriving DecidableEq

/-- How much of the fraction of a second is shown. -/
inductive Precision where
  | milliseconds
  | microseconds
  | nanoseconds
deriving DecidableEq

/-- The digits that a fraction of a second has. -/
def Precision.digits : Precision → Nat
  | milliseconds => 3
  | microseconds => 6
  | nanoseconds => 9

/-- How many nanoseconds the last of these digits stands for. -/
def Precision.unit : Precision → Nat
  | milliseconds => 1000000
  | microseconds => 1000
  | nanoseconds => 1

/-- How a name is shown. -/
inductive NameStyle where
  | full
  /-- The first three letters. -/
  | short
deriving DecidableEq

/-- The case that letters are shown in. -/
inductive LetterCase where
  | upper
  | lower
deriving DecidableEq

/-- A part of an instant that is shown as text. -/
inductive Field where
  | number (quantity : Quantity) (padding : Padding)
  /-- The fraction of the second, without a decimal point. -/
  | fraction (precision : Precision)
  | weekday (style : NameStyle)
  | month (style : NameStyle)
  | meridiem (letters : LetterCase)
  /-- The offset from UTC as a signed number. -/
  | offset
  /-- The abbreviation of the time zone, which says too little to be read back. -/
  | zoneName
deriving DecidableEq

namespace Field

/-- The field the way a layout writes it. -/
def directive : Field → List Char
  | number q .zeros => ['%', q.letter]
  | number q .none => ['%', '-', q.letter]
  | number .day .spaces => ['%', 'e']
  | number q .spaces => ['%', '_', q.letter]
  | fraction .milliseconds => ['%', '3', 'f']
  | fraction .microseconds => ['%', '6', 'f']
  | fraction .nanoseconds => ['%', '9', 'f']
  | weekday .full => ['%', 'A']
  | weekday .short => ['%', 'a']
  | month .full => ['%', 'B']
  | month .short => ['%', 'b']
  | meridiem .upper => ['%', 'p']
  | meridiem .lower => ['%', 'P']
  | offset => ['%', 'z']
  | zoneName => ['%', 'Z']

/-- Whether the field is a number. An offset, which has a sign first, does not count as one. -/
def isNumber : Field → Bool
  | number _ _ | fraction _ => true
  | _ => false

/-- Whether the field is a number whose width depends on its value. A reader passes over the
spaces that fill a number, so they leave its width open too. -/
def isOpenNumber : Field → Bool
  | number _ .spaces | number _ .none => true
  | _ => false

end Field

/-- A piece of a description of a text. -/
inductive Item where
  | literal (c : Char)
  | field (f : Field)
deriving DecidableEq

namespace Item

/-- The item the way a layout writes it. A literal `%` is doubled. -/
def text : Item → List Char
  | literal c => if c = '%' then ['%', '%'] else [c]
  | field f => f.directive

/-- The field that an item is. -/
def field? : Item → Option Field
  | literal _ => none
  | field f => some f

/-- Whether the item is a fraction of a second. -/
def isFraction : Item → Bool
  | field (.fraction _) => true
  | _ => false

/-- The items of a text that stands for itself. -/
def literals (s : String) : List Item := s.toList.map literal

/-- Whether the items begin with a number. -/
def startsWithNumber (items : List Item) : Bool :=
  (items.head?.bind field?).any Field.isNumber

/-- Whether the items end with a number whose width is open. -/
def endsWithOpenNumber (items : List Item) : Bool :=
  (items.getLast?.bind field?).any Field.isOpenNumber

end Item

end DateTemplate
