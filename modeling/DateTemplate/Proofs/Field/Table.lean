import DateTemplate.Field.Derived
import DateTemplate.Field.Table

/-!
# What specifiers can stand for

* `Specifier.layoutSpecifiers`: the specifiers that can be put into a layout.
* `Specifier.forall_of_layoutSpecifiers`: what holds of the items of each of them holds of the items of
  every specifier. Facts about the table are decided by it, one specifier after the other.
* `Specifier.isSome_items?_iff`, `Specifier.isSome_derived?_iff`: the directives of items and those of
  derived numbers.
-/

namespace DateTemplate

/-- The literal character that an item is. -/
def Item.literal? : Item → Option Char
  | literal c => some c
  | field _ => none

namespace Specifier

theorem mem_flatMap_flags {s : Specifier} {ds : List Char} (h : s.directive ∈ ds) :
    s ∈ ds.flatMap fun d => [⟨d, true⟩, ⟨d, false⟩] := by
  refine List.mem_flatMap.2 ⟨s.directive, h, ?_⟩
  obtain ⟨d, p⟩ := s
  cases p <;> simp

/-- The directives that can be put into a layout. -/
def layoutDirectives : List Char :=
  ['A', 'a', 'B', 'b', 'h', 'd', 'e', 'f', 'H', 'I', 'j', 'L', 'M', 'm', 'N', 'P', 'p', 'S', 'Y',
    'y', 'Z', 'z', 'c', 'D', 'x', 'F', 'R', 'r', 'T', 'X', 'v', '+', '%', 't', 'n']

/-- Each of these directives with and without the flag. -/
def layoutSpecifiers : List Specifier :=
  layoutDirectives.flatMap fun d => [⟨d, true⟩, ⟨d, false⟩]

theorem directive_mem_of_items? {s : Specifier} {items : List Item} (h : s.items? = some items) :
    s.directive ∈ layoutDirectives := by
  refine Decidable.byContradiction fun hd => ?_
  simp only [layoutDirectives, List.mem_cons, List.not_mem_nil, or_false, not_or] at hd
  unfold items? field? composite? character? at h
  simp [hd] at h

theorem mem_layoutSpecifiers {s : Specifier} {items : List Item} (h : s.items? = some items) :
    s ∈ layoutSpecifiers :=
  mem_flatMap_flags (directive_mem_of_items? h)

theorem isSome_items?_iff (s : Specifier) : s.items?.isSome ↔ s.directive ∈ layoutDirectives := by
  have hall : ∀ s ∈ layoutSpecifiers, s.items?.isSome := by decide
  refine ⟨fun h => ?_, fun h => hall s (mem_flatMap_flags h)⟩
  obtain ⟨items, hitems⟩ := Option.isSome_iff_exists.1 h
  exact directive_mem_of_items? hitems

/-- What holds of the items of these specifiers holds of the items of every specifier. -/
theorem forall_of_layoutSpecifiers {P : Specifier → List Item → Prop}
    (h : ∀ s ∈ layoutSpecifiers, ∀ items ∈ s.items?, P s items)
    {s : Specifier} {items : List Item} (hs : s.items? = some items) : P s items :=
  h s (mem_layoutSpecifiers hs) items hs

theorem items_ne_nil {s : Specifier} {items : List Item} (h : s.items? = some items) : items ≠ [] :=
  forall_of_layoutSpecifiers (P := fun _ items => items ≠ []) (by decide) h

/-- The literal characters that specifiers stand for are separators. -/
theorem not_isAlphanum_of_literal_mem {s : Specifier} {items : List Item} (h : s.items? = some items)
    {c : Char} (hc : .literal c ∈ items) : ¬ c.isAlphanum :=
  forall_of_layoutSpecifiers
    (P := fun _ items => ∀ i ∈ items, ¬ i.literal?.any Char.isAlphanum) (by decide) h _ hc

theorem any_isFraction_iff {s : Specifier} {items : List Item} (h : s.items? = some items) :
    items.any Item.isFraction ↔ s.directive ∈ ['L', 'f', 'N'] :=
  forall_of_layoutSpecifiers
    (P := fun s items => items.any Item.isFraction ↔ s.directive ∈ ['L', 'f', 'N']) (by decide) h

/-- Years are never filled up with spaces. -/
theorem year_padding_ne {s : Specifier} {items : List Item} {p : Padding}
    (h : s.items? = some items) (hi : .field (.number .year p) ∈ items) : p ≠ .spaces := by
  rintro rfl
  exact forall_of_layoutSpecifiers
    (P := fun _ items => .field (.number .year .spaces) ∉ items) (by decide) h hi

theorem directive_of_yearOfCentury {s : Specifier} {items : List Item} {p : Padding}
    (h : s.items? = some items) (hi : .field (.number .yearOfCentury p) ∈ items) :
    s.directive ∈ ['y', 'D', 'x'] := by
  refine forall_of_layoutSpecifiers (P := fun s items =>
    .field (.number .yearOfCentury p) ∈ items → s.directive ∈ ['y', 'D', 'x']) ?_ h hi
  cases p <;> decide

theorem directive_of_offset {s : Specifier} {items : List Item} (h : s.items? = some items)
    (hi : .field .offset ∈ items) : s.directive = 'z' :=
  forall_of_layoutSpecifiers
    (P := fun s items => .field .offset ∈ items → s.directive = 'z') (by decide) h hi

/-- The directives of derived numbers. -/
def derivedDirectives : List Char := ['C', 'G', 'g', 'V', 'U', 'W', 'w', 'u', 'k', 'l', 's']

theorem directive_mem_of_derived? {s : Specifier} {d : Derived} (h : s.derived? = some d) :
    s.directive ∈ derivedDirectives := by
  refine Decidable.byContradiction fun hd => ?_
  simp only [derivedDirectives, List.mem_cons, List.not_mem_nil, or_false, not_or] at hd
  unfold derived? Derived.ofDirective? at h
  simp [hd] at h

theorem isSome_derived?_iff (s : Specifier) : s.derived?.isSome ↔ s.directive ∈ derivedDirectives := by
  have hall : derivedDirectives.all fun d => (Derived.ofDirective? d).isSome := rfl
  refine ⟨fun h => ?_, fun h => List.all_eq_true.1 hall s.directive h⟩
  obtain ⟨d, hd⟩ := Option.isSome_iff_exists.1 h
  exact directive_mem_of_derived? hd

end Specifier

end DateTemplate
