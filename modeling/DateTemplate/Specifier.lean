/-!
# Specifiers

* `Specifier`: a directive character and whether it was written with the `-` flag.
* `Specifier.text`: the specifier the way a template writes it, `%d` or `%-d`.
-/

namespace DateTemplate

/-- One conversion specifier of a template. -/
structure Specifier where
  /-- The character that ends the specifier and says what it stands for. -/
  directive : Char
  /-- Whether the specifier was written without the `-` flag, which asks for no padding. -/
  padded : Bool
deriving DecidableEq

namespace Specifier

/-- The specifier the way a template writes it. -/
def text (s : Specifier) : List Char :=
  if s.padded then ['%', s.directive] else ['%', '-', s.directive]

instance : ToString Specifier := ⟨fun s => String.ofList s.text⟩

end Specifier

end DateTemplate
