import DateTemplate.Journal
import DateTemplate.Template

/-!
# Journals of templates

The operations on templates with their journals: the specifiers that were shown the way they were
written, and what a template was compiled into or why it was not.

* `Template.loggedFormat`, `Template.loggedAppend`, `Template.loggedLayout`,
  `Template.loggedPattern`, `Template.loggedRead`.
-/

namespace DateTemplate.Template

/-- The record of a specifier that stands for nothing. -/
def echoRecord (s : Specifier) : Record :=
  ⟨.debug, s!"echoing unrecognized specifier `{s}`"⟩

/-- The journal of formatting. -/
def formatRecords (t : Template) (z : Instant) : List Record :=
  ((t.segments z).filterMap Segment.echoed?).map echoRecord

/-- The text for an instant, with its journal. -/
def loggedFormat (t : Template) (z : Instant) : Logged String := ⟨t.format z, t.formatRecords z⟩

/-- A buffer with the text for an instant behind it, with its journal. -/
def loggedAppend (t : Template) (z : Instant) (buffer : String) : Logged String :=
  ⟨t.append z buffer, t.formatRecords z⟩

/-- The layout, with its journal. -/
def loggedLayout (t : Template) : Logged (Except CompileError Layout) where
  value := t.layout
  records :=
    let template := Text.quoted t.text.toList
    match t.layout with
    | .error e => [⟨.debug, s!"rejected template {template} as a layout: {e.message}"⟩]
    | .ok l => [⟨.trace, s!"compiled template {template} to layout {Text.quoted l.text}"⟩]

/-- The UTS#35 pattern, with its journal. -/
def loggedPattern (t : Template) : Logged (Except CompileError Pattern) where
  value := t.pattern
  records :=
    let template := Text.quoted t.text.toList
    match t.pattern with
    | .error e => [⟨.debug, s!"rejected template {template} as a UTS#35 pattern: {e.message}"⟩]
    | .ok p => [⟨.trace, s!"compiled template {template} to UTS#35 pattern {Text.quoted p.text}"⟩]

/-- What a text tells, with the journal of the layout before that of reading. -/
def loggedRead (t : Template) (input : List UInt8) : Logged (Except ReadError Reading) where
  value := t.read input
  records := t.loggedLayout.records ++
    match t.read input with
    | .error (.unreadable l) =>
      [⟨.debug, s!"failed to parse input with layout {Text.quoted l.text}: "⟩]
    | _ => []

end DateTemplate.Template
