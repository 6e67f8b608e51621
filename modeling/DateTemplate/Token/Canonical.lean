import DateTemplate.Token

/-!
# Token sequences that texts have

* `Token.Canonical`: whether a sequence of tokens is the way its own text is read.
* `Token.flatMap_text_scan`: reading a text loses nothing of it.
-/

namespace DateTemplate

namespace Token

/-- The sequences of tokens that are the way their text is read. -/
structure Canonical (ts : List Token) : Prop where
  /-- A `-` behind a `%` is a flag, so no padded specifier has it as its directive. -/
  directive_ne : ∀ c, specifier ⟨c, true⟩ ∈ ts → c ≠ '-'
  /-- A `%` begins an escape unless the text ends with it or with a `-` behind it. -/
  after_percent : ∀ us vs, ts = us ++ literal '%' :: vs → vs = [] ∨ vs = [literal '-']

end Token

private theorem Escape.flatMap_text_tokens (e : Escape) (cs : List Char) :
    (e.tokens cs).flatMap Token.text = e.unread ++ cs := by
  induction cs generalizing e with
  | nil => cases e <;> rfl
  | cons c cs ih =>
    have := e.text_step c
    rw [tokens, List.flatMap_append, ih, ← List.append_assoc, this]
    simp

namespace Token

@[simp] theorem flatMap_text_scan (cs : List Char) : (scan cs).flatMap text = cs :=
  Escape.closed.flatMap_text_tokens cs

end Token

end DateTemplate
