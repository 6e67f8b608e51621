import DateTemplate.Error
import DateTemplate.Layout
import DateTemplate.Text.Spelling

/-!
# Why a text cannot be read

* `ReadError`: the template has no layout, or the text does not have the layout.
-/

namespace DateTemplate

/-- What keeps a text from being read with a template. -/
inductive ReadError where
  /-- The template cannot be compiled into a layout. -/
  | compile (e : CompileError)
  /-- The text does not have the template's layout. -/
  | unreadable (layout : Layout)
deriving DecidableEq

namespace ReadError

/-- The error as a sentence. After the layout there is room for what was found in the text. -/
def message : ReadError → String
  | compile e => e.message
  | unreadable l => s!"failed to parse input with layout `{Text.spelled l.text}`: "

/-- The specifier that cannot be compiled. -/
def specifier? : ReadError → Option Specifier
  | compile e => e.specifier?
  | unreadable _ => none

end ReadError

end DateTemplate
