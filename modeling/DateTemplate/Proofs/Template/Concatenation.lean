import DateTemplate.Proofs.Layout.Grammar
import DateTemplate.Proofs.Pattern.Refusal
import DateTemplate.Proofs.Template.Text

/-!
# Templates behind each other

A template may be put behind another one. Where no escape is open between them, each keeps its meaning.
Where one is open, it is read on with the second template, and the literal text that it was at the end of
the first one is gone.

* `Template.openEscape`, `Template.completed`: what is open at the end of a template, and the tokens that
  are complete before it (`Template.tokens_eq_completed`, `Template.tokens_append`).
* `Template.append_append`: texts and specifiers where no escape is open. `Template.openEscape_eq_closed_iff`
  says that texts go together nowhere else.
* `Template.layout_eq_error_iff`, `Template.specifiers_eq_completed`: only tokens that are complete are
  refused.
* `Template.refused_append`: what is refused stays refused for the same reason, whatever is put behind it.
-/

namespace DateTemplate

/-- One template behind the other. -/
instance : Append Template := ⟨fun t u => ⟨t.text ++ u.text⟩⟩

namespace Template

/-- How much of an escape is open at the end of the template. -/
def openEscape (t : Template) : Escape := Escape.closed.after t.text.toList

/-- The tokens that are complete at the end of the template. -/
def completed (t : Template) : List Token := Escape.closed.complete t.text.toList

theorem toList_text_append (t u : Template) : (t ++ u).text.toList = t.text.toList ++ u.text.toList :=
  String.toList_append

theorem tokens_eq_completed (t : Template) :
    t.tokens = t.completed ++ t.openEscape.unread.map .literal :=
  Escape.closed.tokens_eq t.text.toList

theorem tokens_append (t u : Template) :
    (t ++ u).tokens = t.completed ++ t.openEscape.tokens u.text.toList := by
  rw [tokens, toList_text_append]
  exact Escape.closed.tokens_append t.text.toList u.text.toList

theorem tokens_append_of_closed {t : Template} (h : t.openEscape = .closed) (u : Template) :
    (t ++ u).tokens = t.tokens ++ u.tokens := by
  rw [tokens, toList_text_append]
  exact Token.scan_append h u.text.toList

end Template

/-! ## Texts -/

theorem Token.flatMap_render_literal (z : Instant) (cs : List Char) :
    (cs.map literal).flatMap (render z) = cs := by
  simp [List.flatMap_map, render, segment, Segment.text]

/-- A `%` completes an open escape, which is then shown as one character. -/
theorem Escape.flatMap_render_tokens_percent (z : Instant) {e : Escape} (h : e ≠ .closed) :
    (e.tokens ['%']).flatMap (Token.render z) = ['%'] := by
  cases e with
  | closed => exact absurd rfl h
  | percent => rfl
  | flagged => rfl

namespace Template

theorem append_append_of_closed {a : Template} (h : a.openEscape = .closed) (b : Template) (z : Instant)
    (buffer : String) : (a ++ b).append z buffer = b.append z (a.append z buffer) := by
  refine String.toList_inj.1 ?_
  simp only [toList_append, tokens_append_of_closed h, List.flatMap_append, List.append_assoc]

/-- **Where texts go together.** At the end of a template no escape is open exactly if whatever is put
behind it is shown the way it is shown on its own. -/
theorem openEscape_eq_closed_iff (a : Template) : a.openEscape = .closed ↔
    ∀ (b : Template) (z : Instant) (buffer : String),
      (a ++ b).append z buffer = b.append z (a.append z buffer) := by
  refine ⟨append_append_of_closed, fun h => Decidable.byContradiction fun hopen => ?_⟩
  -- A `%` would be one character more.
  let z : Instant := ⟨0, .utc, none, by decide, by decide⟩
  have htexts := congrArg String.toList (h ⟨"%"⟩ z "")
  have hpercent : (Template.tokens ⟨"%"⟩).flatMap (Token.render z) = ['%'] := rfl
  have hread : (a.openEscape.tokens "%".toList).flatMap (Token.render z) = ['%'] :=
    Escape.flatMap_render_tokens_percent z hopen
  rw [toList_append, toList_append, toList_append, tokens_append, tokens_eq_completed, hpercent,
    List.flatMap_append, List.flatMap_append, hread, Token.flatMap_render_literal] at htexts
  have hnil : a.openEscape.unread = [] := by simpa using htexts
  cases ha : a.openEscape <;> simp [ha, Escape.unread] at hnil hopen

/-- **Formatting composes.** Where no escape is open, a buffer with two templates behind each other holds
what it held before, the text of the first and the text of the second. The templates can as well be
appended one after the other, and they ask for the specifiers of the first and of the second. -/
theorem append_append {a : Template} (h : a.openEscape = .closed) (b : Template) (z : Instant)
    (buffer : String) :
    (a ++ b).append z buffer = buffer ++ a.format z ++ b.format z ∧
      b.append z (a.append z buffer) = buffer ++ a.format z ++ b.format z ∧
      (a ++ b).specifiers = a.specifiers ++ b.specifiers := by
  have hparts : b.append z (a.append z buffer) = buffer ++ a.format z ++ b.format z := by
    rw [append_eq_append_format, append_eq_append_format]
  refine ⟨?_, hparts, ?_⟩
  · rw [append_append_of_closed h, hparts]
  · rw [specifiers, tokens_append_of_closed h, List.filterMap_append]
    rfl

/-- Every escape before the `-d` is closed, so that it is literal text. -/
theorem append_append_percents :
    let a : Template := ⟨"%%%--%-%%Y%%"⟩
    let b : Template := ⟨"-d%"⟩
    let z : Instant := ⟨1249625104000000000, .utc, none, by decide, by decide⟩
    a.openEscape = .closed ∧ (a ++ b).append z "in " = "in %%--%2009%-d%" ∧
      b.append z (a.append z "in ") = "in %%--%2009%-d%" ∧
      (a ++ b).specifiers = a.specifiers ++ b.specifiers := by
  obtain ⟨htext, hparts, hspecifiers⟩ := append_append (a := ⟨"%%%--%-%%Y%%"⟩) (by decide) ⟨"-d%"⟩
    ⟨1249625104000000000, .utc, none, by decide, by decide⟩ "in "
  have hformat : "in " ++ Template.format ⟨"%%%--%-%%Y%%"⟩
      ⟨1249625104000000000, .utc, none, by decide, by decide⟩ ++ Template.format ⟨"-d%"⟩
      ⟨1249625104000000000, .utc, none, by decide, by decide⟩ = "in %%--%2009%-d%" := by decide +kernel
  exact ⟨by decide, htext.trans hformat, hparts.trans hformat, hspecifiers⟩

end Template

/-! ## Layouts -/

/-- What is left of an open escape is never refused. -/
theorem Before.exists_items?_unread (b : Before) (e : Escape) :
    ∃ items, b.items? (e.unread.map .literal) = .ok items := by
  cases e <;> exact ⟨_, rfl⟩

namespace Template

variable {t : Template} {e : CompileError}

theorem layout_eq_error_iff (t : Template) (e : CompileError) :
    t.layout = .error e ↔ Before.start.items? t.completed = .error e := by
  rw [layout, Layout.ofTokens?_eq_error_iff, tokens_eq_completed, Before.items?_append]
  cases Before.start.items? t.completed with
  | error e' => rfl
  | ok items =>
    obtain ⟨rest, hrest⟩ := (Before.start.after t.completed).exists_items?_unread t.openEscape
    simp [Except.bind, Except.map, hrest]

theorem layout_append_of_error (h : t.layout = .error e) (u : Template) :
    (t ++ u).layout = .error e := by
  rw [layout_eq_error_iff] at h
  rw [layout, Layout.ofTokens?_eq_error_iff, tokens_append, Before.items?_append, h]
  rfl

/-! ## Patterns -/

theorem specifiers_eq_completed (t : Template) :
    t.specifiers = t.completed.filterMap Token.specifier? := by
  rw [specifiers, tokens_eq_completed, List.filterMap_append]
  simp [Token.specifier?, List.filterMap_map, Function.comp_def]

theorem specifiers_prefix_append (t u : Template) : t.specifiers <+: (t ++ u).specifiers := by
  rw [specifiers_eq_completed, specifiers, tokens_append, List.filterMap_append]
  exact List.prefix_append _ _

theorem pattern_append_of_error (h : t.pattern = .error e) (u : Template) :
    (t ++ u).pattern = .error e := by
  obtain ⟨s, hs, rfl⟩ := (t.pattern_eq_error_iff e).1 h
  exact ((t ++ u).pattern_eq_error_iff _).2 ⟨s, (t.specifiers_prefix_append u).find?_eq_some hs, rfl⟩

/-! ## Errors -/

/-- **The first error stays.** A template that has no layout, or no pattern, has none for the same reason
with any text behind it, and nothing is read with it. So the templates that have one can be cut off
anywhere, within an escape too. -/
theorem refused_append (t u : Template) :
    (∀ e, t.layout = .error e → (t ++ u).layout = .error e ∧
      ∀ input, (t ++ u).read input = .error (.compile e)) ∧
    (∀ e, t.pattern = .error e → (t ++ u).pattern = .error e) ∧
    ((∃ l, (t ++ u).layout = .ok l) → ∃ l, t.layout = .ok l) ∧
    ((∃ p, (t ++ u).pattern = .ok p) → ∃ p, t.pattern = .ok p) := by
  refine ⟨fun e h => ?_, fun e h => pattern_append_of_error h u, ?_, ?_⟩
  · have hlayout := layout_append_of_error h u
    exact ⟨hlayout, fun input => by rw [read, hlayout]⟩
  · simp only [exists_eq_ok_iff]
    exact fun hu e h => hu e (layout_append_of_error h u)
  · simp only [exists_eq_ok_iff]
    exact fun hu e h => hu e (pattern_append_of_error h u)

/-- At the end of the first template `%-` is literal text, and with the second one it is part of `%-m`. The
errors come from specifiers before it. -/
theorem refused_append_cut_off :
    let t : Template := ⟨"%-d%Y%e%-"⟩
    let u : Template := ⟨"m"⟩
    (t ++ u).specifiers.getLast? = some ⟨'m', false⟩ ∧
      (t ++ u).layout = .error (.unsupported ⟨'Y', true⟩ .layout (.adjacentNumber ⟨'d', false⟩)) ∧
      (t ++ u).pattern = .error (.unsupported ⟨'e', true⟩ .uts35 .unknown) := by
  obtain ⟨hlayout, hpattern, -⟩ := refused_append ⟨"%-d%Y%e%-"⟩ ⟨"m"⟩
  exact ⟨by decide, (hlayout _ rfl).1, hpattern _ rfl⟩

end Template

end DateTemplate
