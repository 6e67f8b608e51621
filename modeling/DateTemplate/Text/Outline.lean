/-!
# Outlines

An outline shows a value part by part, each part on lines of its own and indented by four spaces.

* `Outline.word`, `Outline.record`, `Outline.applied`: the lines of an atom, of a value with named
  parts, and of a value with parts in order.
* `Outline.text`: the lines as one text.
-/

namespace DateTemplate.Outline

/-- The lines of a value that is a single word. -/
def word (s : String) : List String := [s]

/-- The lines with a comma behind the last one. -/
def withComma : List String → List String
  | [] => []
  | [line] => [line ++ ","]
  | line :: lines => line :: withComma lines

/-- The lines of parts between an opening and a closing line. -/
def block (opening closing : String) (parts : List (List String)) : List String :=
  opening :: (parts.flatMap withComma).map ("    " ++ ·) ++ [closing]

/-- The lines of a part with its name before it. -/
def labelled (name : String) : List String → List String
  | [] => []
  | line :: lines => (name ++ ": " ++ line) :: lines

/-- The lines of a value with named parts. -/
def record (name : String) (fields : List (String × List String)) : List String :=
  block (name ++ " \x7b") "\x7d" (fields.map fun f => labelled f.1 f.2)

/-- The lines of a value with parts in order. -/
def applied (name : String) (parts : List (List String)) : List String :=
  block (name ++ "(") ")" parts

/-- The lines as one text. -/
def text (lines : List String) : String := "\n".intercalate lines

end DateTemplate.Outline
