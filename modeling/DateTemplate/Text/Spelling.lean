import DateTemplate.Text.Extender
import DateTemplate.Text.Printable

/-!
# Text in messages

A message shows a text with the characters spelled out that could not be seen, or that would end
the text.

* `Spelling`: what else is spelled out.
* `Text.spelled`, `Text.quoted`, `Text.quotedChar`: a text within a sentence, a text in double
  quotes and a character in apostrophes.
-/

namespace DateTemplate

/-- Which characters are spelled out although they can be printed. -/
structure Spelling where
  /-- The apostrophe. -/
  apostrophe : Bool
  /-- The double quote. -/
  quote : Bool
  /-- Characters that attach to the one before them. -/
  extenders : Bool
deriving DecidableEq

namespace Spelling

/-- A character by its code point, in hexadecimal. -/
def codePoint (c : Char) : List Char :=
  ['\\', 'u', '\x7b'] ++ Nat.toDigits 16 c.toNat ++ ['\x7d']

/-- A character in its spelling. -/
def char (s : Spelling) (c : Char) : List Char :=
  match c with
  | '\x00' => ['\\', '0']
  | '\t' => ['\\', 't']
  | '\n' => ['\\', 'n']
  | '\r' => ['\\', 'r']
  | '\\' => ['\\', '\\']
  | '\'' => if s.apostrophe then ['\\', '\''] else ['\'']
  | '"' => if s.quote then ['\\', '"'] else ['"']
  | c =>
    if s.extenders && Text.isExtender c then codePoint c
    else if Text.isPrintable c then [c]
    else codePoint c

/-- Within a sentence, both kinds of quotes are spelled out. -/
def inSentence : Spelling := ⟨true, true, false⟩

/-- The first character within a sentence has no character of its text to attach to. -/
def firstInSentence : Spelling := ⟨true, true, true⟩

/-- Between double quotes. -/
def inQuotes : Spelling := ⟨false, true, true⟩

/-- Between apostrophes. -/
def inApostrophes : Spelling := ⟨true, false, true⟩

end Spelling

namespace Text

/-- A text within a sentence. -/
def spelled : List Char → String
  | [] => ""
  | c :: cs =>
    String.ofList (Spelling.firstInSentence.char c ++ cs.flatMap Spelling.inSentence.char)

/-- A text in double quotes. -/
def quoted (cs : List Char) : String :=
  String.ofList ('"' :: cs.flatMap Spelling.inQuotes.char ++ ['"'])

/-- A character in apostrophes. -/
def quotedChar (c : Char) : String :=
  String.ofList ('\'' :: Spelling.inApostrophes.char c ++ ['\''])

end Text

end DateTemplate
