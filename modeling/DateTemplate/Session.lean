import DateTemplate.Template

/-!
# Sessions

A session holds a template, a place among its specifiers, and a buffer that texts are added to.

* `Session.start`, `Session.switch`: a session with a template, and another template in its place.
* `Session.next`, `Session.rest`, `Session.rewind`: the specifiers one by one, all that are left,
  and back to the first.
* `Session.append`, `Session.push`, `Session.clear`: what is done to the buffer.
-/

namespace DateTemplate

/-- A template in use. -/
structure Session where
  template : Template
  /-- The place among the template's specifiers. -/
  scanner : Scanner
  buffer : String
deriving DecidableEq

namespace Session

/-- A session with an empty buffer. -/
def start (t : Template) : Session := ⟨t, t.scanner, ""⟩

/-- Puts another template in place, from its first specifier on. The buffer stays. -/
def switch (s : Session) (t : Template) : Session := { s with template := t, scanner := t.scanner }

/-- Goes back to the first specifier. -/
def rewind (s : Session) : Session := s.switch s.template

/-- The next specifier. -/
def next (s : Session) : Option Specifier × Session :=
  let (spec, scanner) := s.scanner.nextSpecifier
  (spec, { s with scanner })

/-- All specifiers that are left. -/
def rest (s : Session) : List Specifier × Session :=
  let (specs, scanner) := s.scanner.drain
  (specs, { s with scanner })

/-- Adds the template's text for an instant to the buffer. -/
def append (s : Session) (z : Instant) : Session :=
  { s with buffer := s.template.append z s.buffer }

/-- Adds a text to the buffer. -/
def push (s : Session) (text : String) : Session := { s with buffer := s.buffer ++ text }

/-- Empties the buffer. -/
def clear (s : Session) : Session := { s with buffer := "" }

end Session

end DateTemplate
