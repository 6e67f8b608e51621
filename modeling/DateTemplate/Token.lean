import DateTemplate.Specifier

/-!
# Tokens of a template

A template is a sequence of tokens: specifiers and literal characters. Reading one never fails.
An escape that the end of the template cuts off stands for itself, so every character belongs
to exactly one token.

* `Escape`: how much of an escape has been read, with `Escape.step` for one more character.
* `Token.scan`: the tokens of a text.
* `Token.text`: the text of a token, the other direction.
-/

namespace DateTemplate

/-- A piece of a template. -/
inductive Token where
  /-- A character that stands for itself. -/
  | literal (c : Char)
  /-- An escape, whether or not anything gives it a meaning. -/
  | specifier (s : Specifier)
deriving DecidableEq

namespace Token

/-- The token the way a template writes it. -/
def text : Token → List Char
  | literal c => [c]
  | specifier s => s.text

theorem text_ne_nil (t : Token) : t.text ≠ [] := by
  cases t with
  | literal c => simp [text]
  | specifier s => simp only [text, Specifier.text]; split <;> simp

/-- The specifier that a token is. -/
def specifier? : Token → Option Specifier
  | literal _ => none
  | specifier s => some s

end Token

/-- How much of an escape has been read. -/
inductive Escape where
  /-- The reader stands outside an escape. -/
  | closed
  /-- A `%` has been read. -/
  | percent
  /-- A `%-` has been read. -/
  | flagged
deriving DecidableEq

namespace Escape

/-- Reads one more character, which may complete a token. -/
def step : Escape → Char → Escape × Option Token
  | closed, c => if c = '%' then (percent, none) else (closed, some (.literal c))
  | percent, c => if c = '-' then (flagged, none) else (closed, some (.specifier ⟨c, true⟩))
  | flagged, c => (closed, some (.specifier ⟨c, false⟩))

/-- The characters that have been read and belong to no token yet. -/
def unread : Escape → List Char
  | closed => []
  | percent => ['%']
  | flagged => ['%', '-']

/-- A step loses no character: what was unread and the new character are the token's text and
what is unread now. -/
theorem text_step (e : Escape) (c : Char) :
    (e.step c).2.toList.flatMap Token.text ++ (e.step c).1.unread = e.unread ++ [c] := by
  cases e <;> simp only [step, unread] <;> (try split) <;> simp_all [Token.text, Specifier.text]

/-- The tokens of the text `cs` when `e` has been read before it. An escape that is still open
at the end is literal text. -/
def tokens (e : Escape) : List Char → List Token
  | [] => e.unread.map .literal
  | c :: cs => (e.step c).2.toList ++ (e.step c).1.tokens cs

/-- Where the reader stands after the text `cs`. -/
def after (e : Escape) (cs : List Char) : Escape := cs.foldl (fun e c => (e.step c).1) e

end Escape

/-- The tokens of a text. -/
def Token.scan (cs : List Char) : List Token := Escape.closed.tokens cs

end DateTemplate
