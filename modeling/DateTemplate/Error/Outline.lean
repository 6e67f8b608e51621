import DateTemplate.Error
import DateTemplate.Text.Outline
import DateTemplate.Text.Spelling

/-!
# Outlines of errors

* `CompileError.outline`: the error part by part.
-/

namespace DateTemplate

open Outline

/-- The parts of a specifier. -/
def Specifier.outline (s : Specifier) : List String :=
  record "Specifier"
    [("directive", word (Text.quotedChar s.directive)), ("padded", word (toString s.padded))]

/-- The target as a word. -/
def Target.outline : Target → List String
  | layout => word "Layout"
  | uts35 => word "Uts35"

/-- The parts of a refusal. -/
def Refusal.outline : Refusal → List String
  | unknown => word "Unknown"
  | missingSeparator => word "MissingSeparator"
  | formatOnly => word "FormatOnly"
  | adjacentNumber previous => applied "AdjacentNumber" [previous.outline]

/-- The parts of an ambiguity. -/
def Ambiguity.outline : Ambiguity → List String
  | digit c => applied "Digit" [word (Text.quotedChar c)]
  | reservedWord w => applied "ReservedWord" [word (Text.quoted w.toList)]

namespace CompileError

/-- The parts of what went wrong. -/
def kindOutline : CompileError → List String
  | unsupported s t r =>
    applied "UnsupportedSpecifier"
      [record "UnsupportedSpecifierError"
        [("spec", s.outline), ("target", t.outline), ("reason", r.outline)]]
  | ambiguous a =>
    applied "AmbiguousLiteral" [record "AmbiguousLiteralError" [("ambiguity", a.outline)]]

/-- The error part by part. -/
def outline (e : CompileError) : String :=
  Outline.text (record "Error" [("kind", e.kindOutline)])

end CompileError

end DateTemplate
