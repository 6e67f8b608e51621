import DateTemplate.Specifier

/-!
# Why a template cannot be compiled

* `CompileError`: what keeps a template from being a layout or a UTS#35 pattern.
* `CompileError.message`: the same for a reader.
* `CompileError.specifier?`: the specifier at fault, if it is one.
-/

namespace DateTemplate

/-- What a template is compiled into. -/
inductive Target where
  | layout
  | uts35
deriving DecidableEq

/-- Why a specifier cannot be compiled where it stands. -/
inductive Refusal where
  /-- The target has nothing that the specifier could stand for. -/
  | unknown
  /-- A fraction of a second does not follow a literal `.` or `,`. -/
  | missingSeparator
  /-- The text of the specifier says too little to be read back. -/
  | formatOnly
  /-- The specifier begins with a number right after a number whose width is open. -/
  | adjacentNumber (previous : Specifier)
deriving DecidableEq

/-- Literal text that could be taken for the text of a field. -/
inductive Ambiguity where
  /-- A decimal digit. -/
  | digit (c : Char)
  /-- A word that is a name, or part of one. -/
  | reservedWord (word : String)
deriving DecidableEq

/-- What keeps a template from being compiled. -/
inductive CompileError where
  | unsupported (spec : Specifier) (target : Target) (reason : Refusal)
  | ambiguous (ambiguity : Ambiguity)
deriving DecidableEq

/-- The name of a target in a sentence. -/
def Target.phrase : Target → String
  | layout => "a layout"
  | uts35 => "a UTS#35 pattern"

namespace CompileError

/-- The error as a sentence. -/
def message : CompileError → String
  | unsupported s t .unknown => s!"specifier `{s}` is not supported in {t.phrase}"
  | unsupported s t .missingSeparator =>
    s!"fractional second specifier `{s}` in {t.phrase} " ++
      "must be immediately preceded by a literal `.` or `,`"
  | unsupported s t .formatOnly =>
    s!"specifier `{s}` is not supported in {t.phrase} because its output cannot be parsed"
  | unsupported s t (.adjacentNumber p) =>
    s!"specifier `{s}` in {t.phrase} must be separated " ++
      s!"from the variable width number `{p}` before it"
  | ambiguous (.digit c) => s!"literal digit `{c}` in a layout is ambiguous with numeric fields"
  | ambiguous (.reservedWord w) =>
    s!"literal `{w}` in a layout is ambiguous with month, weekday, meridiem or time zone names"

/-- The specifier that cannot be compiled. -/
def specifier? : CompileError → Option Specifier
  | unsupported s _ _ => some s
  | ambiguous _ => none

end CompileError

end DateTemplate
