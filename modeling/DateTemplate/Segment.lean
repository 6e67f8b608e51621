import DateTemplate.Field.Derived
import DateTemplate.Field.Render
import DateTemplate.Field.Table
import DateTemplate.Token

/-!
# Segments of a formatted text

Each token of a template contributes one segment to the text, whatever stands around it.

* `Token.segment`: the segment of a token for an instant. A specifier that stands for nothing is
  shown the way it was written.
* `Segment.text`: the text of a segment.
-/

namespace DateTemplate

/-- What a token contributes to a text. -/
inductive Segment where
  /-- A character of the template. -/
  | literal (c : Char)
  /-- What a specifier stands for. -/
  | shown (s : Specifier) (text : List Char)
  /-- A specifier that stands for nothing. -/
  | echoed (s : Specifier)
deriving DecidableEq

namespace Segment

/-- The text of a segment. -/
def text : Segment → List Char
  | literal c => [c]
  | shown _ text => text
  | echoed s => s.text

/-- The specifier that is shown the way it was written. -/
def echoed? : Segment → Option Specifier
  | echoed s => some s
  | _ => none

end Segment

/-- The text that a specifier stands for. -/
def Specifier.render? (z : Instant) (s : Specifier) : Option (List Char) :=
  (s.items?.map fun items => items.flatMap (Item.render z)) <|>
    s.derived?.map fun d => d.render z s.padded

/-- What a token contributes to the text for an instant. -/
def Token.segment (z : Instant) : Token → Segment
  | literal c => .literal c
  | specifier s => match s.render? z with
    | some text => .shown s text
    | none => .echoed s

end DateTemplate
