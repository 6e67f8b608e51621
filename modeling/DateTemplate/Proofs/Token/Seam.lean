import DateTemplate.Template.Substitution
import Mathlib.Data.List.Basic

/-!
# Seams between texts

A text can be cut into parts that are read on their own wherever no escape is open. So a template can
be put together from texts that leave no escape open, and its tokens are those of the texts.

* `Escape.complete`: the tokens that a text completes, without what is left of an open escape.
* `Token.Closed`: tokens whose text leaves no escape open. Every token that a text completes is one of
  them (`Escape.closed_of_mem_complete`), and is what its own text is read as (`Token.scan_text`).
* `Token.scan_append`, `Token.scan_flatMap_append`: the tokens of texts behind each other.
* `Template.tokens_mapSpecifiers`: the tokens of a template with other texts for its specifiers.
-/

namespace DateTemplate

namespace Escape

/-- The tokens that the text `cs` completes when `e` has been read before it. -/
def complete (e : Escape) : List Char → List Token
  | [] => []
  | c :: cs => (e.step c).2.toList ++ (e.step c).1.complete cs

theorem tokens_append (e : Escape) (cs ds : List Char) :
    e.tokens (cs ++ ds) = e.complete cs ++ (e.after cs).tokens ds := by
  induction cs generalizing e with
  | nil => rfl
  | cons c cs ih =>
    rw [List.cons_append, tokens, ih, complete, List.append_assoc]
    rfl

theorem tokens_eq (e : Escape) (cs : List Char) :
    e.tokens cs = e.complete cs ++ (e.after cs).unread.map .literal := by
  have h := e.tokens_append cs []
  rwa [List.append_nil] at h

end Escape

namespace Token

/-- Whether the text of the token leaves no escape open. -/
def Closed (t : Token) : Prop := Escape.closed.after t.text = .closed

theorem closed_literal_iff (c : Char) : (literal c).Closed ↔ c ≠ '%' := by
  by_cases hc : c = '%' <;> simp [Closed, text, Escape.after, Escape.step, hc]

theorem closed_specifier_iff (s : Specifier) :
    (specifier s).Closed ↔ s.padded → s.directive ≠ '-' := by
  obtain ⟨c, p⟩ := s
  cases p
  · simp [Closed, text, Specifier.text, Escape.after, Escape.step]
  · by_cases hc : c = '-' <;> simp [Closed, text, Specifier.text, Escape.after, Escape.step, hc]

/-- A token whose text leaves no escape open is what the text is read as. -/
theorem scan_text {t : Token} (h : t.Closed) : scan t.text = [t] := by
  cases t with
  | literal c =>
    simp [scan, text, Escape.tokens, Escape.step, Escape.unread, (closed_literal_iff c).1 h]
  | specifier s =>
    obtain ⟨c, p⟩ := s
    cases p
    · rfl
    · have hc : c ≠ '-' := (closed_specifier_iff _).1 h rfl
      simp [scan, text, Specifier.text, Escape.tokens, Escape.step, Escape.unread, hc]

end Token

namespace Escape

theorem closed_of_step {e : Escape} {c : Char} {t : Token} (h : (e.step c).2 = some t) : t.Closed := by
  cases e with
  | closed =>
    by_cases hc : c = '%'
    · simp [step, hc] at h
    · obtain rfl : .literal c = t := by simpa [step, hc] using h
      exact (Token.closed_literal_iff c).2 hc
  | percent =>
    by_cases hc : c = '-'
    · simp [step, hc] at h
    · obtain rfl : .specifier ⟨c, true⟩ = t := by simpa [step, hc] using h
      exact (Token.closed_specifier_iff _).2 fun _ => hc
  | flagged =>
    obtain rfl : .specifier ⟨c, false⟩ = t := by simpa [step] using h
    exact (Token.closed_specifier_iff _).2 (by simp)

/-- Every token that a text completes leaves no escape open. -/
theorem closed_of_mem_complete {e : Escape} {cs : List Char} {t : Token} (h : t ∈ e.complete cs) :
    t.Closed := by
  induction cs generalizing e with
  | nil => simp [complete] at h
  | cons c cs ih =>
    rw [complete, List.mem_append] at h
    rcases h with h | h
    · exact closed_of_step (by simpa using h)
    · exact ih h

end Escape

namespace Token

theorem scan_append {cs : List Char} (h : Escape.closed.after cs = .closed) (ds : List Char) :
    scan (cs ++ ds) = scan cs ++ scan ds := by
  simp only [scan, Escape.tokens_append, Escape.tokens_eq .closed cs, h, Escape.unread,
    List.map_nil, List.append_nil]

/-- Texts that leave no escape open are read one after the other. -/
theorem scan_flatMap_append {α : Type} {f : α → List Char} {xs : List α}
    (h : ∀ x ∈ xs, Escape.closed.after (f x) = .closed) (cs : List Char) :
    scan (xs.flatMap f ++ cs) = xs.flatMap (fun x => scan (f x)) ++ scan cs := by
  induction xs with
  | nil => rfl
  | cons x xs ih =>
    rw [List.flatMap_cons, List.append_assoc, scan_append (h x List.mem_cons_self),
      ih fun y hy => h y (List.mem_cons_of_mem x hy), List.flatMap_cons, List.append_assoc]

/-- The tokens of a text leave no escape open, except for what is left of one that the end of the text
cuts off. -/
theorem exists_scan_eq (cs : List Char) :
    ∃ (ts : List Token) (e : Escape), scan cs = ts ++ e.unread.map literal ∧ ∀ t ∈ ts, t.Closed :=
  ⟨_, _, Escape.closed.tokens_eq cs, fun _ => Escape.closed_of_mem_complete⟩

/-- The specifiers of a text leave no escape open. -/
theorem closed_of_mem_scan {cs : List Char} {s : Specifier} (h : specifier s ∈ scan cs) :
    (specifier s).Closed := by
  obtain ⟨ts, e, hts, hclosed⟩ := exists_scan_eq cs
  rw [hts, List.mem_append] at h
  exact hclosed _ (h.resolve_right (by simp))

/-- What is left of an open escape is literal text again. -/
theorem scan_unread (e : Escape) : scan e.unread = e.unread.map literal := by
  cases e <;> rfl

/-- The token itself, or the tokens that stand for a specifier. -/
def replace (f : Specifier → List Token) : Token → List Token
  | literal c => [literal c]
  | specifier s => f s

@[simp] theorem replace_literal (f : Specifier → List Token) (c : Char) :
    replace f (literal c) = [literal c] := rfl

@[simp] theorem replace_specifier (f : Specifier → List Token) (s : Specifier) :
    replace f (specifier s) = f s := rfl

end Token

/-- **Substitution.** With texts for its specifiers that leave no escape open, a template has the tokens
of these texts in place of the specifiers. -/
theorem Template.tokens_mapSpecifiers {f : Specifier → List Char} {t : Template}
    (h : ∀ s ∈ t.specifiers, Escape.closed.after (f s) = .closed) :
    (t.mapSpecifiers f).tokens = t.tokens.flatMap (Token.replace fun s => Token.scan (f s)) := by
  obtain ⟨ts, e, hts, hclosed⟩ := Token.exists_scan_eq t.text.toList
  rw [specifiers, tokens, hts] at h
  rw [mapSpecifiers, tokens, tokens, String.toList_ofList, hts, List.flatMap_append,
    List.flatMap_append, List.flatMap_map, List.flatMap_map, Token.scan_flatMap_append]
  · rw [List.flatMap_singleton', Token.scan_unread, List.map_eq_flatMap]
    congr 1
    refine List.flatMap_congr fun u hu => ?_
    cases u with
    | literal c => exact Token.scan_text (hclosed _ hu)
    | specifier s => rfl
  · intro u hu
    cases u with
    | literal c => exact hclosed _ hu
    | specifier s => exact h s (List.mem_filterMap.2 ⟨_, List.mem_append_left _ hu, rfl⟩)

end DateTemplate
