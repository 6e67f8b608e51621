import DateTemplate.Error
import DateTemplate.Field.Read
import DateTemplate.Field.Table
import DateTemplate.Token

/-!
# Layouts

A layout describes a text so that the text can be read back. A template can be compiled into one
if nothing in it could be taken for something else.

* `Layout`, `Layout.text`: a layout, and how it is written.
* `Layout.read?`: what a text with a given layout tells.
* `Layout.ofTokens?`: the layout of a template's tokens, or the first thing that stands against
  it.
* `Before`: what the decision about a token depends on, which is what stands right before it.
-/

namespace DateTemplate

/-- A description of a text that can be read back. -/
structure Layout where
  /-- The pieces of the text in order. -/
  items : List Item
deriving DecidableEq

namespace Layout

/-- The layout the way it is written. -/
def text (l : Layout) : List Char := l.items.flatMap Item.text

instance : ToString Layout := ⟨fun l => String.ofList l.text⟩

/-- What a text with this layout tells, or nothing if it does not have the layout. -/
def read? (l : Layout) (input : List UInt8) : Option Reading :=
  (Item.readAll? l.items input).map Reading.ofEntries

end Layout

/-- What stands right before a token. -/
inductive Before where
  /-- The literal characters since the last specifier, the latest first. -/
  | literals (run : List Char)
  /-- A specifier and the items that it stands for. -/
  | specifier (s : Specifier) (items : List Item)
deriving DecidableEq

/-- Words that are names of a month, a weekday, a time zone or a half of the day, or begin one.
Of two that end at the same place the first one counts. -/
def reservedWords : List String := ["Jan", "Mon", "MST", "PM", "pm"]

/-- The characters that a reserved word can end with. -/
def reservedEndings : List Char := ['n', 'T', 'M', 'm']

/-- The reserved word that a run of literal characters ends with, the latest character first. Most
characters cannot be the end of one. -/
def reservedWord? (run : List Char) : Option String :=
  if run.head?.any reservedEndings.contains then
    reservedWords.find? fun w => w.toList.reverse.isPrefixOf run
  else none

namespace Before

/-- The literal characters since the last specifier, the latest first. -/
def run : Before → List Char
  | literals cs => cs
  | specifier _ _ => []

/-- Whether a fraction of a second may follow. -/
def isSeparator (b : Before) : Bool := b.run.head?.any fun c => c = '.' || c = ','

/-- The specifier before, if it ends with a number whose width is open. -/
def openNumber? : Before → Option Specifier
  | literals _ => none
  | specifier s items => if Item.endsWithOpenNumber items then some s else none

/-- What a literal character adds to a layout. -/
def addLiteral (b : Before) (c : Char) : Except CompileError (List Item × Before) :=
  if c.isDigit then .error (.ambiguous (.digit c))
  else
    let run := c :: b.run
    match reservedWord? run with
    | some w => .error (.ambiguous (.reservedWord w))
    | none => .ok ([.literal c], .literals run)

/-- Why the items of a specifier cannot follow. -/
def refusal? (b : Before) (items : List Item) : Option Refusal :=
  if items.any Item.isFraction && !b.isSeparator then some .missingSeparator
  else if items.contains (.field .zoneName) then some .formatOnly
  else if Item.startsWithNumber items then b.openNumber?.map .adjacentNumber
  else none

/-- What a specifier adds to a layout. -/
def addSpecifier (b : Before) (s : Specifier) : Except CompileError (List Item × Before) :=
  match s.items? with
  | none => .error (.unsupported s .layout .unknown)
  | some items => match b.refusal? items with
    | some reason => .error (.unsupported s .layout reason)
    | none => .ok (items, .specifier s items)

/-- What a token adds to a layout, and what then stands before the next one. -/
def addToken (b : Before) : Token → Except CompileError (List Item × Before)
  | .literal c => b.addLiteral c
  | .specifier s => b.addSpecifier s

/-- The items of the tokens `ts` with `b` before them. -/
def items? (b : Before) : List Token → Except CompileError (List Item)
  | [] => .ok []
  | t :: ts => do
    let (items, b) ← b.addToken t
    let rest ← b.items? ts
    return items ++ rest

end Before

/-- The layout of a template's tokens. -/
def Layout.ofTokens? (ts : List Token) : Except CompileError Layout :=
  (Before.literals []).items? ts |>.map Layout.mk

end DateTemplate
