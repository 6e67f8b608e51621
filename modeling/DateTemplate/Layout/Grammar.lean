import DateTemplate.Layout

/-!
# The grammar of templates that have a layout

* `Layout.Grammatical`: which sequences of tokens have a layout, said of the whole sequence at once.
* `Token.layoutItems`: the items that a token stands for in a layout.
* `Specifier.layoutText?`, `Token.layoutText`: what a layout has in place of a specifier and of a token,
  the way it is written.
-/

namespace DateTemplate

/-- What a layout has in place of a specifier, the way it is written. It keeps the flags of `%-d`, `%-I`,
`%-M`, `%-m` and `%-S` and drops the others. -/
def Specifier.layoutText? (s : Specifier) : Option String :=
  match s.directive with
  | 'A' => some "%A"
  | 'a' => some "%a"
  | 'B' => some "%B"
  | 'b' | 'h' => some "%b"
  | 'c' => some "%a %b %e %H:%M:%S %Y"
  | 'D' | 'x' => some "%m/%d/%y"
  | 'd' => some (if s.padded then "%d" else "%-d")
  | 'e' => some "%e"
  | 'F' => some "%Y-%m-%d"
  | 'f' => some "%6f"
  | 'H' => some "%H"
  | 'I' => some (if s.padded then "%I" else "%-I")
  | 'j' => some "%j"
  | 'L' => some "%3f"
  | 'M' => some (if s.padded then "%M" else "%-M")
  | 'm' => some (if s.padded then "%m" else "%-m")
  | 'N' => some "%9f"
  | 'P' => some "%P"
  | 'p' => some "%p"
  | 'R' => some "%H:%M"
  | 'r' => some "%I:%M:%S %p"
  | 'S' => some (if s.padded then "%S" else "%-S")
  | 'T' | 'X' => some "%H:%M:%S"
  | 'v' => some "%e-%b-%Y"
  | 'Y' => some "%Y"
  | 'y' => some "%y"
  | 'Z' => some "%Z"
  | 'z' => some "%z"
  | '+' => some "%a %b %e %H:%M:%S %Z %Y"
  | '%' => some "%%"
  | 't' => some "\t"
  | 'n' => some lineTerminator
  | _ => none

namespace Token

/-- The items that a token stands for in a layout. -/
def layoutItems : Token → List Item
  | literal c => [.literal c]
  | specifier s => s.items?.getD []

/-- The token the way a layout writes it. A literal `%` is doubled. -/
def layoutText : Token → List Char
  | literal c => if c = '%' then ['%', '%'] else [c]
  | specifier s => s.layoutText?.elim [] String.toList

/-- Whether the token is a literal `.` or `,`. -/
def IsSeparator (t : Token) : Prop := t = literal '.' ∨ t = literal ','

end Token

/-- What a sequence of tokens needs to have a layout. -/
structure Layout.Grammatical (ts : List Token) : Prop where
  /-- No literal character is a digit. -/
  not_isDigit : ∀ c, .literal c ∈ ts → ¬ c.isDigit
  /-- No literal text contains a reserved word. -/
  no_reservedWord : ∀ w ∈ reservedWords, ¬ w.toList.map .literal <:+: ts
  /-- Every specifier stands for something that can be read back. -/
  readable : ∀ s, .specifier s ∈ ts → ∃ items, s.items? = some items ∧ .field .zoneName ∉ items
  /-- Fractions of a second follow a literal `.` or `,`. -/
  separated : ∀ us s vs, ts = us ++ .specifier s :: vs → s.directive ∈ ['L', 'f', 'N'] →
    ∃ t ∈ us.getLast?, t.IsSeparator
  /-- No number follows a number whose width is open. -/
  not_adjacent : ∀ s s' : Specifier, [.specifier s, .specifier s'] <:+: ts →
    Item.endsWithOpenNumber (Token.specifier s).layoutItems →
    ¬ Item.startsWithNumber (Token.specifier s').layoutItems

end DateTemplate
