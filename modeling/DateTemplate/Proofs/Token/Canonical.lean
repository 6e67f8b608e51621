import DateTemplate.Proofs.Token.Seam
import DateTemplate.Token.Canonical

/-!
# Texts and canonical tokens

The texts and the canonical sequences of tokens are in one-to-one correspondence: reading a text gives
a canonical sequence that has the text, and a canonical sequence is what its text is read as.

* `Token.canonical_append_iff`: tokens that leave no escape open may stand before canonical ones.
* `Token.canonical_iff`: a canonical sequence consists of tokens that leave no escape open and of what an
  escape left at the end of the text.
* `Token.canonical_scan`, `Token.scan_flatMap_text_of_canonical`: the two directions.
* `Template.tokens_eq_iff`: both for the tokens of a template.
-/

namespace DateTemplate

namespace Token

theorem canonical_cons_iff {t : Token} (ht : t.Closed) (ts : List Token) :
    Canonical (t :: ts) ↔ Canonical ts := by
  constructor
  · rintro ⟨hminus, hpercent⟩
    refine ⟨fun c hc => hminus c (List.mem_cons_of_mem t hc), fun us vs hts => ?_⟩
    exact hpercent (t :: us) vs (by rw [hts, List.cons_append])
  · rintro ⟨hminus, hpercent⟩
    constructor
    case directive_ne =>
      intro c hc
      rcases List.mem_cons.1 hc with rfl | hc
      · exact (closed_specifier_iff _).1 ht rfl
      · exact hminus c hc
    case after_percent =>
      intro us vs hts
      cases us with
      | nil =>
        obtain ⟨rfl, -⟩ : t = literal '%' ∧ ts = vs := by simpa using hts
        exact absurd rfl ((closed_literal_iff _).1 ht)
      | cons u us =>
        obtain ⟨-, hts⟩ : t = u ∧ ts = us ++ literal '%' :: vs := by simpa using hts
        exact hpercent us vs hts

theorem canonical_append_iff {us : List Token} (hus : ∀ u ∈ us, u.Closed) (vs : List Token) :
    Canonical (us ++ vs) ↔ Canonical vs := by
  induction us with
  | nil => rfl
  | cons u us ih =>
    rw [List.cons_append, canonical_cons_iff (hus u List.mem_cons_self)]
    exact ih fun v hv => hus v (List.mem_cons_of_mem u hv)

/-- What is left of an open escape is the only place for a literal `%`. -/
theorem canonical_unread (e : Escape) : Canonical (e.unread.map literal) := by
  constructor
  case directive_ne => simp
  case after_percent =>
    intro us vs h
    cases e with
    | closed => simp [Escape.unread] at h
    | percent =>
      cases us with
      | nil => exact .inl (by simpa [Escape.unread, eq_comm] using h)
      | cons u us => simp [Escape.unread] at h
    | flagged =>
      cases us with
      | nil => exact .inr (by simpa [Escape.unread, eq_comm] using h)
      | cons u us => simp [Escape.unread, List.cons_eq_append_iff] at h

/-- **Canonical sequences.** They consist of tokens that leave no escape open and of what an escape left
at the end of the text. -/
theorem canonical_iff (ts : List Token) : Canonical ts ↔
    ∃ (us : List Token) (e : Escape), ts = us ++ e.unread.map literal ∧ ∀ u ∈ us, u.Closed := by
  constructor
  · intro h
    induction ts with
    | nil => exact ⟨[], .closed, rfl, by simp⟩
    | cons t ts ih =>
      by_cases ht : t.Closed
      · obtain ⟨us, e, rfl, hus⟩ := ih ((canonical_cons_iff ht ts).1 h)
        exact ⟨t :: us, e, rfl, List.forall_mem_cons.2 ⟨ht, hus⟩⟩
      · cases t with
        | literal c =>
          obtain rfl : c = '%' := by simpa [closed_literal_iff] using ht
          rcases h.after_percent [] ts rfl with rfl | rfl
          · exact ⟨[], .percent, rfl, by simp⟩
          · exact ⟨[], .flagged, rfl, by simp⟩
        | specifier s =>
          obtain ⟨d, p⟩ := s
          obtain ⟨rfl, rfl⟩ : p = true ∧ d = '-' := by simpa [closed_specifier_iff] using ht
          exact absurd rfl (h.directive_ne '-' List.mem_cons_self)
  · rintro ⟨us, e, rfl, hus⟩
    exact (canonical_append_iff hus _).2 (canonical_unread e)

theorem canonical_of_forall_closed {ts : List Token} (h : ∀ t ∈ ts, t.Closed) : Canonical ts :=
  (canonical_iff ts).2 ⟨ts, .closed, (List.append_nil ts).symm, h⟩

theorem canonical_scan (cs : List Char) : Canonical (scan cs) :=
  (canonical_iff _).2 (exists_scan_eq cs)

theorem scan_flatMap_text_of_canonical {ts : List Token} (h : Canonical ts) :
    scan (ts.flatMap text) = ts := by
  obtain ⟨us, e, rfl, hus⟩ := (canonical_iff ts).1 h
  have hunread : (e.unread.map literal).flatMap text = e.unread := by
    simp [List.flatMap_map, text]
  have htexts : us.flatMap (fun u => scan u.text) = us := by
    rw [List.flatMap_congr fun u hu => scan_text (hus u hu), List.flatMap_singleton']
  rw [List.flatMap_append, hunread, scan_flatMap_append hus, scan_unread, htexts]

end Token

/-- **Texts and tokens.** The tokens of a template are the one canonical sequence that has the template's
text: reading loses no character, and canonical tokens are read back from their text. -/
theorem Template.tokens_eq_iff (t : Template) (ts : List Token) :
    t.tokens = ts ↔ Token.Canonical ts ∧ ts.flatMap Token.text = t.text.toList := by
  constructor
  · rintro rfl
    exact ⟨Token.canonical_scan _, Token.flatMap_text_scan _⟩
  · rintro ⟨hcanonical, htext⟩
    rw [tokens, ← htext, Token.scan_flatMap_text_of_canonical hcanonical]

example : Template.tokens ⟨"%--%%-%-"⟩ =
    [.specifier ⟨'-', false⟩, .specifier ⟨'%', true⟩, .literal '-', .literal '%', .literal '-'] :=
  rfl

end DateTemplate
