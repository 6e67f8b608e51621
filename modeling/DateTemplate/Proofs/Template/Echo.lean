import DateTemplate.Proofs.Field.Table
import DateTemplate.Proofs.Template.Text
import DateTemplate.Template.Logged
import DateTemplate.Token.Canonical
import Mathlib.Data.List.Basic

/-!
# Specifiers that stand for nothing

A specifier that stands for nothing is shown the way it was written, and the journal of formatting has a
record of each of these.

* `Specifier.textDirectives`: the directives that texts know. `Specifier.render?_eq_none_iff` says that
  specifiers with other directives, and only these, stand for nothing, whatever the instant.
* `Template.format_eq_text`: a template of such specifiers and literal text is shown as it is.
* `Template.loggedFormat_echoes`: this text and its journal, and the journal of every template.
-/

namespace DateTemplate

namespace Specifier

/-- The directives of specifiers that stand for something in a text. -/
def textDirectives : List Char := layoutDirectives ++ derivedDirectives

theorem render?_eq_none_iff (z : Instant) (s : Specifier) :
    s.render? z = none ↔ s.directive ∉ textDirectives := by
  have hitems := s.isSome_items?_iff
  have hderived := s.isSome_derived?_iff
  rw [textDirectives, List.mem_append, not_or, ← hitems, ← hderived]
  simp [render?]

theorem text_injective : Function.Injective text := by
  rintro ⟨d, p⟩ ⟨d', p'⟩ h
  cases p <;> cases p' <;> simp_all [text]

end Specifier

/-! ## Texts -/

/-- A token that is no specifier for something is shown the way it was written. -/
theorem Token.render_eq_text {t : Token} {z : Instant} (h : ∀ s ∈ t.specifier?, s.render? z = none) :
    t.render z = t.text := by
  cases t with
  | literal c => rfl
  | specifier s => simp [render, segment, h s rfl, Segment.text, text]

namespace Template

theorem format_eq_text {t : Template} {z : Instant} (h : ∀ s ∈ t.specifiers, s.render? z = none) :
    t.format z = t.text := by
  have htokens : ∀ u ∈ t.tokens, u.render z = u.text := fun u hu =>
    Token.render_eq_text fun s hs => h s (List.mem_filterMap.2 ⟨u, hu, hs⟩)
  rw [← String.toList_inj, toList_format, List.flatMap_congr htokens, tokens, Token.flatMap_text_scan]

/-- Every specifier is written with a `%`. -/
theorem specifiers_eq_nil {t : Template} (h : '%' ∉ t.text.toList) : t.specifiers = [] := by
  refine List.eq_nil_iff_forall_not_mem.2 fun s hs => h ?_
  have hpercent : '%' ∈ s.text := by unfold Specifier.text; split <;> simp
  rw [← Token.flatMap_text_scan t.text.toList]
  exact List.mem_flatMap.2 ⟨_, mem_specifiers.1 hs, hpercent⟩

/-! ## Journals -/

theorem echoRecord_eq (s : Specifier) : echoRecord s =
    ⟨.debug, "echoing unrecognized specifier `" ++ String.ofList s.text ++ "`"⟩ := rfl

/-- Different specifiers have different records. -/
theorem echoRecord_injective : Function.Injective echoRecord := by
  intro s s' h
  refine Specifier.text_injective (String.ofList_injective ?_)
  simpa [echoRecord_eq] using h

/-- The echoed specifier of a token. -/
theorem echoed?_segment (z : Instant) (t : Token) : (t.segment z).echoed? =
    t.specifier?.filter (·.directive ∉ Specifier.textDirectives) := by
  cases t with
  | literal c => rfl
  | specifier s =>
    have hnone := s.render?_eq_none_iff z
    cases hs : s.render? z <;> simp_all [Token.segment, Segment.echoed?, Token.specifier?, Option.filter]

/-- The journal has the specifiers that stand for nothing, in their order. -/
theorem formatRecords_eq (t : Template) (z : Instant) : t.formatRecords z =
    (t.specifiers.filter (·.directive ∉ Specifier.textDirectives)).map echoRecord := by
  have hechoed : Segment.echoed? ∘ Token.segment z =
      fun u => u.specifier?.filter (·.directive ∉ Specifier.textDirectives) :=
    funext (echoed?_segment z)
  rw [formatRecords, segments, specifiers, List.filterMap_map, hechoed, List.filter_filterMap]

/-- **Echoes.** A template whose specifiers all stand for nothing is its own text, and the journal has one
record for each of them. In the journal of any template are its specifiers that stand for nothing, in order
and the way they were written, whatever the instant. Each record names one specifier only. -/
theorem loggedFormat_echoes (t : Template) (z : Instant) :
    ((∀ s ∈ t.specifiers, s.directive ∉ Specifier.textDirectives) →
      t.loggedFormat z = ⟨t.text, t.specifiers.map echoRecord⟩) ∧
    (t.loggedFormat z).records =
      (t.specifiers.filter (·.directive ∉ Specifier.textDirectives)).map echoRecord ∧
    (∀ s, echoRecord s =
      ⟨.debug, "echoing unrecognized specifier `" ++ String.ofList s.text ++ "`"⟩) ∧
    Function.Injective echoRecord := by
  refine ⟨fun h => ?_, t.formatRecords_eq z, echoRecord_eq, echoRecord_injective⟩
  have htext : t.format z = t.text :=
    format_eq_text fun s hs => (s.render?_eq_none_iff z).2 (h s hs)
  have hfilter : t.specifiers.filter (·.directive ∉ Specifier.textDirectives) = t.specifiers :=
    List.filter_eq_self.2 fun s hs => decide_eq_true (h s hs)
  rw [loggedFormat, htext, formatRecords_eq, hfilter]

/-- The specifier behind `%q` is `%--`, and the `%-` at the end is none. -/
theorem loggedFormat_echoes_cut_off :
    let t : Template := ⟨"[%q%--%-é] 50%-"⟩
    let z : Instant := ⟨1249625104000000000, .utc, none, by decide, by decide⟩
    t.specifiers = [⟨'q', true⟩, ⟨'-', false⟩, ⟨'é', false⟩] ∧
      t.loggedFormat z = ⟨"[%q%--%-é] 50%-",
        [⟨.debug, "echoing unrecognized specifier `%q`"⟩,
          ⟨.debug, "echoing unrecognized specifier `%--`"⟩,
          ⟨.debug, "echoing unrecognized specifier `%-é`"⟩]⟩ := by
  intro t z
  have hspecifiers : t.specifiers = [⟨'q', true⟩, ⟨'-', false⟩, ⟨'é', false⟩] := by decide
  have hlogged := (loggedFormat_echoes t z).1 (by decide)
  rw [hspecifiers] at hlogged
  exact ⟨hspecifiers, hlogged⟩

end Template

end DateTemplate
