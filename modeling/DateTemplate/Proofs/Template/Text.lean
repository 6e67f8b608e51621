import DateTemplate.Layout.Grammar
import DateTemplate.Template

/-!
# The text of a template

The text for an instant consists of the texts of the tokens, whatever stands around each of them, and comes
behind what a buffer holds.

* `Token.segment_specifier`, `Token.segment_derived`: the segment of a specifier.
* `Token.render`: the text of a token for an instant.
* `Template.toList_append`, `Template.append_eq_append_format`: a buffer with the text of a template behind
  it.
* `Template.toList_format`: the text of a template. `Template.toList_format_derived` says it of a template
  that is one specifier for a derived number.
-/

namespace DateTemplate

namespace Token

/-- The text of a token for an instant. -/
def render (z : Instant) (t : Token) : List Char := (t.segment z).text

theorem segment_specifier (z : Instant) {s : Specifier} {items : List Item} (h : s.items? = some items) :
    (specifier s).segment z = .shown s (items.flatMap (Item.render z)) := by
  simp [segment, Specifier.render?, h]

theorem segment_derived (z : Instant) {s : Specifier} {d : Derived} (hs : s.items? = none)
    (hd : s.derived? = some d) : (specifier s).segment z = .shown s (d.render z s.padded) := by
  simp [segment, Specifier.render?, hs, hd]

theorem render_specifier (z : Instant) {s : Specifier} {items : List Item}
    (h : s.items? = some items) : (specifier s).render z = items.flatMap (Item.render z) := by
  rw [render, segment_specifier z h, Segment.text]

theorem render_field (z : Instant) {s : Specifier} {f : Field} (h : s.field? = some f) :
    (specifier s).render z = f.render z := by
  have hitems : s.items? = some [.field f] := by simp [Specifier.items?, h]
  rw [render_specifier z hitems, List.flatMap_singleton, Item.render]

theorem render_derived (z : Instant) {s : Specifier} {d : Derived} (hs : s.items? = none)
    (hd : s.derived? = some d) : (specifier s).render z = d.render z s.padded := by
  rw [render, segment_derived z hs hd, Segment.text]

/-- A token that stands for items is shown as these. -/
theorem render_eq_of_ne_nil (z : Instant) {t : Token} (h : t.layoutItems ≠ []) :
    t.render z = t.layoutItems.flatMap (Item.render z) := by
  cases t with
  | literal c => rfl
  | specifier s =>
    cases hs : s.items? with
    | none => simp [layoutItems, hs] at h
    | some items => rw [render_specifier z hs, layoutItems, hs, Option.getD_some]

end Token

/-- A run over segments adds their texts to the buffer and changes nothing before them. -/
theorem Segment.toList_foldl_append (segments : List Segment) (buffer : String) :
    (segments.foldl (fun b s => b ++ String.ofList s.text) buffer).toList =
      buffer.toList ++ segments.flatMap text := by
  induction segments generalizing buffer with
  | nil => simp
  | cons s segments ih => simp [ih]

namespace Template

theorem toList_append (t : Template) (z : Instant) (buffer : String) :
    (t.append z buffer).toList = buffer.toList ++ t.tokens.flatMap (Token.render z) := by
  rw [append, Segment.toList_foldl_append, segments, List.flatMap_map]
  rfl

theorem toList_format (t : Template) (z : Instant) :
    (t.format z).toList = t.tokens.flatMap (Token.render z) := by
  simp [format, toList_append]

theorem flatMap_text_segments (t : Template) (z : Instant) :
    (t.segments z).flatMap Segment.text = (t.format z).toList := by
  rw [toList_format, segments, List.flatMap_map]
  rfl

theorem toList_format_derived {t : Template} {s : Specifier} {d : Derived} (ht : t.tokens = [.specifier s])
    (hs : s.items? = none) (hd : s.derived? = some d) (z : Instant) :
    (t.format z).toList = d.render z s.padded := by
  rw [toList_format, ht, List.flatMap_singleton, Token.render_derived z hs hd]

/-- What a buffer holds is kept, and has no effect on the text behind it. -/
theorem append_eq_append_format (t : Template) (z : Instant) (buffer : String) :
    t.append z buffer = buffer ++ t.format z := by
  refine String.toList_inj.1 ?_
  rw [toList_append, String.toList_append, toList_format]

end Template

end DateTemplate
