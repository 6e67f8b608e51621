import DateTemplate.Pattern

/-!
# Reading UTS#35 patterns

* `Pattern.symbols?`: the letters that stand for fields and the literal characters of a pattern,
  by the quoting rules of UTS#35.
* `Token.symbols?`: those that a token of a template stands for.
* `Pattern.fields`: the fields of a pattern, which are runs of one letter.
-/

namespace DateTemplate

namespace Pattern

/-- A character of a pattern with its quoting resolved. -/
inductive Symbol where
  /-- A letter that stands for a field or for a part of one. -/
  | letter (c : Char)
  /-- A character that stands for itself. -/
  | literal (c : Char)
deriving DecidableEq

/-- The symbol that a character is outside quotes. -/
def Symbol.ofChar (c : Char) : Symbol := if c.isAlpha then letter c else literal c

/-- The symbols of the text `cs` inside an open quote or not, unless it ends inside a quote. -/
def readSymbols? (quoted : Bool) : List Char → Option (List Symbol)
  | [] => if quoted then none else some []
  | '\'' :: '\'' :: cs => (readSymbols? quoted cs).map (.literal '\'' :: ·)
  | c :: cs =>
    if c = '\'' then readSymbols? (!quoted) cs
    else (readSymbols? quoted cs).map ((if quoted then .literal c else .ofChar c) :: ·)

/-- The symbols of a pattern, unless it has a quote without an end. -/
def symbols? (p : Pattern) : Option (List Symbol) := readSymbols? false p.text

/-- The letter that a symbol is. -/
def Symbol.letter? : Symbol → Option Char
  | letter c => some c
  | literal _ => none

/-- The fields among symbols: the longest runs of one letter. -/
def fields (symbols : List Symbol) : List (List Char) :=
  (symbols.splitBy (· = ·)).map (·.filterMap Symbol.letter?) |>.filter (· ≠ [])

end Pattern

/-- The symbols that a token stands for. -/
def Token.symbols? : Token → Option (List Pattern.Symbol)
  | literal c => some [.literal c]
  | specifier s => s.pattern?.map fun text => text.toList.map .ofChar

end DateTemplate
