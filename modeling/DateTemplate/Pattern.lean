import DateTemplate.Error
import DateTemplate.Field.Table
import DateTemplate.Token

/-!
# UTS#35 date patterns

In a UTS#35 pattern every ASCII letter belongs to a field unless it is quoted with apostrophes. A
doubled apostrophe is a literal one, inside and outside quotes.

* `Specifier.pattern?`: the pattern that a specifier stands for.
* `Pattern.ofTokens?`: the pattern of a template's tokens. The literal characters between two
  specifiers are quoted from the first letter on.
-/

namespace DateTemplate

/-- The pattern that a specifier stands for. The flag of a specifier has an effect where there is a
shorter field, and is ignored elsewhere. -/
def Specifier.pattern? (s : Specifier) : Option String :=
  match s.directive with
  | 'A' => some "EEEE"
  | 'a' => some "EEE"
  | 'B' => some "MMMM"
  | 'b' | 'h' => some "MMM"
  | 'c' => some "EEE MMM d HH:mm:ss yyyy"
  | 'D' | 'x' => some "MM/dd/yy"
  | 'd' => some (if s.padded then "dd" else "d")
  | 'F' => some "yyyy-MM-dd"
  | 'f' => some "SSSSSS"
  | 'G' => some "YYYY"
  | 'g' => some "YY"
  | 'H' => some (if s.padded then "HH" else "H")
  | 'I' => some (if s.padded then "hh" else "h")
  | 'j' => some (if s.padded then "DDD" else "D")
  | 'L' => some "SSS"
  | 'M' => some (if s.padded then "mm" else "m")
  | 'm' => some (if s.padded then "MM" else "M")
  | 'N' => some "SSSSSSSSS"
  | 'p' => some "a"
  | 'R' => some "HH:mm"
  | 'r' => some "hh:mm:ss a"
  | 'S' => some (if s.padded then "ss" else "s")
  | 'T' | 'X' => some "HH:mm:ss"
  | 'V' => some "ww"
  | 'v' => some "d-MMM-yyyy"
  | 'Y' => some "yyyy"
  | 'y' => some "yy"
  | 'Z' => some "zzz"
  | 'z' => some "Z"
  | '+' => some "EEE MMM d HH:mm:ss zzz yyyy"
  | '%' => some "%"
  | 't' => some "\t"
  | 'n' => some lineTerminator
  | _ => none

/-- A UTS#35 date pattern. -/
structure Pattern where
  /-- The pattern the way it is written. -/
  text : List Char
deriving DecidableEq

namespace Pattern

instance : ToString Pattern := ⟨fun p => String.ofList p.text⟩

/-- A part of a pattern that is to be written. -/
inductive Piece where
  /-- A character that stands for itself. -/
  | literal (c : Char)
  /-- Fields, and whatever stands between them, in their written form. -/
  | fields (text : List Char)
deriving DecidableEq

/-- The piece that a token stands for. -/
def Piece.ofToken? : Token → Except CompileError Piece
  | .literal c => .ok (.literal c)
  | .specifier s => match s.pattern? with
    | some text => .ok (.fields text.toList)
    | none => .error (.unsupported s .uts35 .unknown)

/-- The apostrophe that ends an open quote. -/
def closing (quoted : Bool) : List Char := if quoted then ['\''] else []

/-- The pieces in their written form, inside an open quote or not. -/
def write (quoted : Bool) : List Piece → List Char
  | [] => closing quoted
  | .fields text :: ps => closing quoted ++ text ++ write false ps
  | .literal c :: ps =>
    if c = '\'' then '\'' :: '\'' :: write quoted ps
    else if c.isAlpha && !quoted then '\'' :: c :: write true ps
    else c :: write quoted ps

/-- The pattern of a template's tokens. -/
def ofTokens? (ts : List Token) : Except CompileError Pattern := do
  let pieces ← ts.mapM Piece.ofToken?
  return ⟨write false pieces⟩

end Pattern

end DateTemplate
