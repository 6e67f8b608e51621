import DateTemplate.Token

/-!
# Reading tokens one at a time

A scanner walks through a text and can be stopped after any token.

* `Scanner.next`, `Scanner.nextSpecifier`: the next token, or the next specifier, and the scanner
  that goes on behind it.
* `Scanner.remaining`, `Scanner.specifiers`: what is still to come. `next_fst`, `remaining_next`,
  `nextSpecifier_fst` and `specifiers_nextSpecifier` say that a step gives out the first of it and
  leaves the others, and `drain_fst` that all steps give out all of it.
-/

namespace DateTemplate

/-- A position in a text that is being read. -/
structure Scanner where
  /-- The characters not read yet. -/
  input : List Char
  /-- How much of an escape has been read. -/
  escape : Escape
  /-- The `-` of an escape that the end of the text cut off, when only its `%` has been given
  out. -/
  pending : Option Char
deriving DecidableEq

namespace Scanner

/-- A scanner at the start of a text. -/
def start (cs : List Char) : Scanner := ⟨cs, .closed, none⟩

/-- A scanner that has nothing left to give. -/
def exhausted : Scanner := start []

/-- The tokens still to come. -/
def remaining (s : Scanner) : List Token :=
  s.pending.toList.map .literal ++ s.escape.tokens s.input

/-- Reads on until a token is complete or the text ends. -/
def advance (e : Escape) : List Char → Option Token × Scanner
  | [] => match e.unread with
    | [] => (none, exhausted)
    | c :: cs => (some (.literal c), ⟨[], .closed, cs.head?⟩)
  | c :: cs => match e.step c with
    | (e, some t) => (some t, ⟨cs, e, none⟩)
    | (e, none) => advance e cs

/-- The next token, and the scanner that goes on behind it. -/
def next (s : Scanner) : Option Token × Scanner :=
  match s.pending with
  | some c => (some (.literal c), { s with pending := none })
  | none => advance s.escape s.input

/-- How many characters a scanner still holds. -/
def size (s : Scanner) : Nat := s.input.length + s.escape.unread.length + s.pending.toList.length

private theorem size_advance {e : Escape} {cs : List Char} {t : Token}
    (h : (advance e cs).1 = some t) : (advance e cs).2.size < cs.length + e.unread.length := by
  induction cs generalizing e with
  | nil => cases e <;> simp [advance, Escape.unread, size] at h ⊢
  | cons c cs ih =>
    have htext := congrArg List.length (e.text_step c)
    unfold advance at h ⊢
    rcases hs : e.step c with ⟨e', _ | u⟩
    · have := ih (e := e') (by simpa [hs] using h)
      simp [hs] at htext ⊢
      omega
    · have := List.length_pos_iff.2 u.text_ne_nil
      simp [hs, size] at htext ⊢
      omega

/-- Giving out a token uses up characters. -/
theorem size_next {s : Scanner} {t : Token} (h : s.next.1 = some t) : s.next.2.size < s.size := by
  unfold next at h ⊢
  rcases hp : s.pending with _ | c
  · simp only [hp] at h ⊢
    have := size_advance h
    unfold size at this ⊢
    omega
  · simp [size, hp]

/-- The next specifier, passing over literal characters, and the scanner that goes on behind
it. -/
def nextSpecifier (s : Scanner) : Option Specifier × Scanner :=
  match _h : s.next with
  | (none, s') => (none, s')
  | (some (.specifier p), s') => (some p, s')
  | (some (.literal _), s') => s'.nextSpecifier
termination_by s.size
decreasing_by
  have := size_next (congrArg Prod.fst _h)
  rwa [_h] at this

section

variable {s s' : Scanner}

theorem nextSpecifier_of_none (h : s.next = (none, s')) : s.nextSpecifier = (none, s') := by
  unfold nextSpecifier
  split <;> simp_all

theorem nextSpecifier_of_specifier {p : Specifier} (h : s.next = (some (.specifier p), s')) :
    s.nextSpecifier = (some p, s') := by
  unfold nextSpecifier
  split <;> simp_all

theorem nextSpecifier_of_literal {c : Char} (h : s.next = (some (.literal c), s')) :
    s.nextSpecifier = s'.nextSpecifier := by
  rw [nextSpecifier]
  split <;> simp_all

end

/-- Giving out a specifier uses up characters. -/
theorem size_nextSpecifier {s : Scanner} {p : Specifier} (h : s.nextSpecifier.1 = some p) :
    s.nextSpecifier.2.size < s.size := by
  induction s using nextSpecifier.induct with
  | case1 s s' hn =>
    rw [nextSpecifier_of_none hn] at h
    cases h
  | case2 s q s' hn =>
    have := size_next (congrArg Prod.fst hn)
    rwa [nextSpecifier_of_specifier hn, ← congrArg Prod.snd hn]
  | case3 s c s' hn ih =>
    have hlt := size_next (congrArg Prod.fst hn)
    rw [congrArg Prod.snd hn] at hlt
    rw [nextSpecifier_of_literal hn] at h ⊢
    exact Nat.lt_trans (ih h) hlt

/-- All specifiers that are left, one after the other, and the scanner behind them. -/
def drain (s : Scanner) : List Specifier × Scanner :=
  match _h : s.nextSpecifier with
  | (none, s') => ([], s')
  | (some p, s') => (p :: s'.drain.1, s'.drain.2)
termination_by s.size
decreasing_by
  all_goals
    have := size_nextSpecifier (congrArg Prod.fst _h)
    rwa [_h] at this

theorem drain_of_none {s s' : Scanner} (h : s.nextSpecifier = (none, s')) : s.drain = ([], s') := by
  unfold drain
  split <;> simp_all

theorem drain_of_some {s s' : Scanner} {p : Specifier} (h : s.nextSpecifier = (some p, s')) :
    s.drain = (p :: s'.drain.1, s'.drain.2) := by
  rw [drain]
  split <;> simp_all

/-- The specifiers still to come. -/
def specifiers (s : Scanner) : List Specifier := s.remaining.filterMap Token.specifier?

/-! ## What a step gives out and leaves -/

private theorem advance_eq (e : Escape) (cs : List Char) :
    (advance e cs).1 = (e.tokens cs).head? ∧ (advance e cs).2.remaining = (e.tokens cs).tail := by
  induction cs generalizing e with
  | nil => cases e <;> simp [advance, Escape.unread, Escape.tokens, remaining, exhausted, start]
  | cons c cs ih =>
    unfold advance Escape.tokens
    rcases e.step c with ⟨e', _ | t⟩
    · simpa using ih e'
    · simp [remaining]

@[simp] theorem next_fst (s : Scanner) : s.next.1 = s.remaining.head? := by
  unfold next remaining
  rcases s.pending with _ | c
  · simpa using (advance_eq s.escape s.input).1
  · simp

@[simp] theorem remaining_next (s : Scanner) : s.next.2.remaining = s.remaining.tail := by
  rcases s with ⟨cs, e, _ | c⟩
  · simpa [next, remaining] using (advance_eq e cs).2
  · simp [next, remaining]

private theorem remaining_of_next {s s' : Scanner} {t : Option Token} (h : s.next = (t, s')) :
    s.remaining = t.toList ++ s'.remaining ∧ (t = none → s.remaining = []) := by
  have h₁ := s.next_fst
  have h₂ := s.remaining_next
  rw [h] at h₁ h₂
  subst h₁
  simp only at h₂
  rw [h₂]
  cases s.remaining <;> simp

private theorem nextSpecifier_eq (s : Scanner) :
    s.nextSpecifier.1 = s.specifiers.head? ∧ s.nextSpecifier.2.specifiers = s.specifiers.tail := by
  induction s using nextSpecifier.induct with
  | case1 s s' h =>
    obtain ⟨h₁, h₂⟩ := remaining_of_next h
    rw [h₂ rfl] at h₁
    rw [nextSpecifier_of_none h]
    simp_all [specifiers]
  | case2 s p s' h =>
    obtain ⟨h₁, -⟩ := remaining_of_next h
    rw [nextSpecifier_of_specifier h, specifiers, h₁]
    exact ⟨rfl, rfl⟩
  | case3 s c s' h ih =>
    obtain ⟨h₁, -⟩ := remaining_of_next h
    have h₃ : s.specifiers = s'.specifiers := by rw [specifiers, h₁]; rfl
    rwa [nextSpecifier_of_literal h, h₃]

@[simp] theorem nextSpecifier_fst (s : Scanner) : s.nextSpecifier.1 = s.specifiers.head? :=
  (nextSpecifier_eq s).1

@[simp] theorem specifiers_nextSpecifier (s : Scanner) :
    s.nextSpecifier.2.specifiers = s.specifiers.tail :=
  (nextSpecifier_eq s).2

private theorem specifiers_of_nextSpecifier {s s' : Scanner} {p : Option Specifier}
    (h : s.nextSpecifier = (p, s')) :
    s.specifiers.head? = p ∧ s.specifiers.tail = s'.specifiers := by
  rw [← nextSpecifier_fst, ← specifiers_nextSpecifier, h]
  exact ⟨rfl, rfl⟩

/-- One after the other, all specifiers that were still to come are given out. -/
@[simp] theorem drain_fst (s : Scanner) : s.drain.1 = s.specifiers := by
  induction s using drain.induct with
  | case1 s s' h =>
    obtain ⟨hnil, -⟩ := specifiers_of_nextSpecifier h
    rw [drain_of_none h, List.head?_eq_none_iff.1 hnil]
  | case2 s p s' h ih =>
    obtain ⟨hhead, htail⟩ := specifiers_of_nextSpecifier h
    obtain ⟨ps, hps⟩ := List.head?_eq_some_iff.1 hhead
    rw [hps, List.tail_cons] at htail
    rw [drain_of_some h, ih, hps, htail]

end Scanner

end DateTemplate
