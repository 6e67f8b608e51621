import DateTemplate.Template

/-!
# Templates with other specifiers

* `Template.mapSpecifiers`: a template with each specifier replaced by a text.
* `Template.expand`: a template with every specifier for several fields written out.
* `Template.dropFlags`: a template without the flags of specifiers that mean something.
-/

namespace DateTemplate

namespace Specifier

/-- The template text that a specifier for several fields abbreviates. The day of the month, which
is filled up with spaces, is written as `day`. -/
def expansion? (day : String) (s : Specifier) : Option String :=
  match s.directive with
  | 'c' => some s!"%a %b {day} %H:%M:%S %Y"
  | 'D' | 'x' => some "%m/%d/%y"
  | 'F' => some "%Y-%m-%d"
  | 'R' => some "%H:%M"
  | 'r' => some "%I:%M:%S %p"
  | 'T' | 'X' => some "%H:%M:%S"
  | 'v' => some s!"{day}-%b-%Y"
  | '+' => some s!"%a %b {day} %H:%M:%S %Z %Y"
  | _ => none

/-- The specifier without the flag. -/
def withPadding (s : Specifier) : Specifier := { s with padded := true }

end Specifier

namespace Template

/-- The template with each specifier replaced by a text. -/
def mapSpecifiers (f : Specifier → List Char) (t : Template) : Template :=
  ⟨String.ofList <| t.tokens.flatMap fun
    | .literal c => [c]
    | .specifier s => f s⟩

/-- The template with every specifier for several fields written out, and with `day` for the day of
the month in them. -/
def expand (day : String) (t : Template) : Template :=
  t.mapSpecifiers fun s => ((s.expansion? day).map String.toList).getD s.text

/-- The template without the flags of the specifiers that are `known`. -/
def dropFlags (known : Specifier → Bool) (t : Template) : Template :=
  t.mapSpecifiers fun s => if known s then s.withPadding.text else s.text

end Template

end DateTemplate
