import DateTemplate.Error.Read
import DateTemplate.Pattern
import DateTemplate.Segment
import DateTemplate.Token.Scanner

/-!
# Templates

Any text is a template. It can be formatted for an instant, which never fails, and it can be
compiled into a layout or a UTS#35 pattern, which fails if the template has something that these
cannot express.

* `Template.format`, `Template.append`: the text of an instant.
* `Template.layout`, `Template.pattern`: the compiled template, or why there is none.
* `Template.read`: what a text tells that was written with the template.
* `Template.specifiers`, `Template.scanner`: what the template asks for, at once or one by one.
-/

namespace DateTemplate

/-- A text with specifiers in it. -/
structure Template where
  /-- The template the way it was given. -/
  text : String
deriving DecidableEq

namespace Template

instance : ToString Template := ⟨text⟩

/-- The tokens of the template. -/
def tokens (t : Template) : List Token := Token.scan t.text.toList

/-- A scanner at the start of the template. -/
def scanner (t : Template) : Scanner := .start t.text.toList

/-- The specifiers of the template in order, whether or not they stand for anything. -/
def specifiers (t : Template) : List Specifier := t.tokens.filterMap Token.specifier?

theorem mem_specifiers {t : Template} {s : Specifier} : s ∈ t.specifiers ↔ .specifier s ∈ t.tokens := by
  rw [specifiers, List.mem_filterMap]
  constructor
  · rintro ⟨u, hu, hs⟩
    cases u <;> cases hs
    exact hu
  · intro h
    exact ⟨_, h, rfl⟩

/-- What the tokens of the template contribute to its text for an instant. -/
def segments (t : Template) (z : Instant) : List Segment := t.tokens.map (Token.segment z)

/-- The buffer with the template's text for an instant behind it. -/
def append (t : Template) (z : Instant) (buffer : String) : String :=
  (t.segments z).foldl (fun b s => b ++ String.ofList s.text) buffer

/-- The template's text for an instant. -/
def format (t : Template) (z : Instant) : String := t.append z ""

/-- The layout that reads back what the template's text tells. -/
def layout (t : Template) : Except CompileError Layout := Layout.ofTokens? t.tokens

/-- The UTS#35 pattern for the template's text. -/
def pattern (t : Template) : Except CompileError Pattern := Pattern.ofTokens? t.tokens

/-- What a text tells that was written with the template. -/
def read (t : Template) (input : List UInt8) : Except ReadError Reading :=
  match t.layout with
  | .error e => .error (.compile e)
  | .ok l => match l.read? input with
    | none => .error (.unreadable l)
    | some r => .ok r

/-- The template in double quotes, with its name before it. -/
def describe (t : Template) : String :=
  s!"Strftime \x7b template: {Text.quoted t.text.toList} \x7d"

end Template

end DateTemplate
