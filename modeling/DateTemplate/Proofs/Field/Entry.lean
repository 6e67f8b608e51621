import DateTemplate.Proofs.Field.Read
import Mathlib.Data.List.Induction

/-!
# What the fields of a text tell together

Several fields may tell the same part of an instant. What is read in the end is what the last of them
tells.

* `Part`, `Field.part?`: the parts of an instant, and the one that a field tells.
  `Field.part?_eq_of_read?` says that what is read for a field is for that part.
* `Field.last?`: the last field that tells a part.
* `Reading.Tells`: what a reading of some fields says of an instant, part by part.
* `Reading.tells_ofEntries`: the entries of fields make such a reading.
-/

namespace DateTemplate

/-- A part of an instant that a field can tell. -/
inductive Part where
  | year
  | month
  | day
  | dayOfYear
  | hour
  | minute
  | second
  | nanosecond
  | offset
  | weekday
  | meridiem
deriving DecidableEq

/-- The part that the entry is for. -/
def Entry.part : Entry → Part
  | year _ => .year
  | month _ => .month
  | day _ => .day
  | dayOfYear _ => .dayOfYear
  | hour _ => .hour
  | minute _ => .minute
  | second _ => .second
  | nanosecond _ => .nanosecond
  | offset _ => .offset
  | weekday _ => .weekday
  | meridiem _ => .meridiem

namespace Field

/-- The part that the field tells. -/
def part? : Field → Option Part
  | number .year _ | number .yearOfCentury _ => some .year
  | number .month _ | month _ => some .month
  | number .day _ => some .day
  | number .dayOfYear _ => some .dayOfYear
  | number .hour _ | number .hour12 _ => some .hour
  | number .minute _ => some .minute
  | number .second _ => some .second
  | fraction _ => some .nanosecond
  | weekday _ => some .weekday
  | meridiem _ => some .meridiem
  | offset => some .offset
  | zoneName => none

/-- Whether the field is the hour on a 12-hour clock. -/
def isHour12 : Field → Bool
  | number .hour12 _ => true
  | _ => false

/-- The precision of a fraction of a second. -/
def precision? : Field → Option Precision
  | fraction p => some p
  | _ => none

theorem isSome_precision? {f : Field} (h : f.part? = some .nanosecond) : f.precision?.isSome := by
  cases f with
  | fraction p => rfl
  | number q p => cases q <;> simp [part?] at h
  | _ => simp [part?] at h

/-- The last of the fields that tells a part. -/
def last? (p : Part) (fs : List Field) : Option Field :=
  (fs.filter fun f => f.part? = some p).getLast?

end Field

/-! ## What is read for a field -/

theorem Quantity.part?_eq_of_entry? {q : Quantity} {n : Nat} {e : Entry} (h : q.entry? n = some e)
    (p : Padding) : (Field.number q p).part? = some e.part := by
  cases q with
  | year | yearOfCentury =>
    cases h
    rfl
  | month =>
    obtain ⟨m, -, rfl⟩ := Option.map_eq_some_iff.1 h
    rfl
  | _ =>
    simp only [Quantity.entry?, Option.ite_none_right_eq_some, Option.some.injEq] at h
    obtain ⟨-, rfl⟩ := h
    rfl

/-- What is read for a field is for the part that the field tells. -/
theorem Field.part?_eq_of_read? {f : Field} {bs rest : List UInt8} {e : Entry}
    (h : f.read? bs = some (e, rest)) : f.part? = some e.part := by
  cases f with
  | number q p =>
    by_cases hq : q = .year
    · subst hq
      simp only [read?, Quantity.read?, Option.bind_eq_bind, Option.bind_eq_some_iff] at h
      obtain ⟨r, -, heq⟩ := h
      cases heq
      rfl
    · rw [read?, Quantity.read?_of_ne_year hq, Option.bind_eq_some_iff] at h
      obtain ⟨r, -, h⟩ := h
      obtain ⟨e', he, heq⟩ := Option.map_eq_some_iff.1 h
      cases heq
      exact Quantity.part?_eq_of_entry? he p
  | fraction p =>
    simp only [read?, Precision.read?, Option.bind_eq_bind, Option.bind_eq_some_iff] at h
    obtain ⟨r, -, heq⟩ := h
    cases heq
    rfl
  | zoneName => cases h
  | _ =>
    obtain ⟨r, -, heq⟩ := Option.map_eq_some_iff.1 h
    cases heq
    rfl

namespace Item

/-- Every entry is for a part that some field tells. -/
theorem exists_field_of_mem {is : List Item} {bs rest : List UInt8} {es : List Entry}
    (h : readSequence? is bs = some (es, rest)) {e : Entry} (he : e ∈ es) :
    ∃ f, .field f ∈ is ∧ f.part? = some e.part := by
  induction is generalizing bs es with
  | nil =>
    cases h
    cases he
  | cons i is ih =>
    simp only [readSequence?, Option.bind_eq_bind, Option.bind_eq_some_iff] at h
    obtain ⟨⟨o, bs₁⟩, hread, ⟨fs, bs₂⟩, hreads, heq⟩ := h
    cases heq
    rcases List.mem_append.1 he with ho | hf
    · cases i with
      | literal c =>
        have hnone : o = none := by
          rw [read?] at hread
          split at hread
          · cases hread
            rfl
          · obtain ⟨bs₃, -, heq⟩ := Option.map_eq_some_iff.1 hread
            cases heq
            rfl
        simp [hnone] at ho
      | field f =>
        rw [read?, Option.map_eq_some_iff] at hread
        obtain ⟨⟨e', bs₃⟩, hread, heq⟩ := hread
        cases heq
        obtain rfl : e = e' := by simpa using ho
        exact ⟨f, List.mem_cons_self, Field.part?_eq_of_read? hread⟩
    · obtain ⟨f, hmem, hpart⟩ := ih hreads hf
      exact ⟨f, List.mem_cons_of_mem i hmem, hpart⟩

end Item

/-- Every year that a field tells is that of the instant. -/
theorem Item.eq_year_of_mem_entries {z : Instant} {is : List Item} {n : Int}
    (h : .year n ∈ entries z is) : n = z.date.year := by
  obtain ⟨i, -, hi⟩ := List.mem_filterMap.1 h
  obtain ⟨f, -, hf⟩ := Option.bind_eq_some_iff.1 hi
  cases f with
  | number q p => cases q <;> simp_all [Field.entry?, Quantity.entry]
  | _ => simp [Field.entry?] at hf

/-- What a reading of the fields `fs` says of an instant: each part if some field tells it, and
nothing else. The nanoseconds are cut off as in the last fraction of a second. The hour is that of the
instant, unless it was last told on a 12-hour clock and no field tells the half of the day. -/
structure Reading.Tells (r : Reading) (z : Instant) (fs : List Field) : Prop where
  year : r.year = (Field.last? .year fs).map fun _ => z.date.year
  month : r.month = (Field.last? .month fs).map fun _ => z.date.month
  day : r.day = (Field.last? .day fs).map fun _ => z.date.day
  dayOfYear : r.dayOfYear = (Field.last? .dayOfYear fs).map fun _ => z.date.dayOfYear
  hour : r.hour = (Field.last? .hour fs).map fun f =>
    if f.isHour12 ∧ Field.last? .meridiem fs = none then z.time.hour12 else z.time.hour
  minute : r.minute = (Field.last? .minute fs).map fun _ => z.time.minute
  second : r.second = (Field.last? .second fs).map fun _ => z.time.second
  nanosecond : r.nanosecond = (Field.last? .nanosecond fs).bind fun f =>
    f.precision?.map (Precision.truncate z.time.nanosecond)
  offset : r.offset = (Field.last? .offset fs).map fun _ => z.offset
  weekday : r.weekday = (Field.last? .weekday fs).map fun _ => z.date.weekday
  meridiem : r.meridiem = (Field.last? .meridiem fs).map fun _ => z.time.meridiem

/-! ## The last one counts -/

theorem getLast?_filterMap_of_isSome {α β : Type} {g : α → Option β} {l : List α}
    (h : ∀ a ∈ l, (g a).isSome) : (l.filterMap g).getLast? = l.getLast?.bind g := by
  induction l using List.reverseRecOn with
  | nil => rfl
  | append_singleton l a _ =>
    obtain ⟨b, hb⟩ := Option.isSome_iff_exists.1 (h a (by simp))
    simp [hb]

namespace Reading

/-- A part `get` of a reading is what the last entry for it has recorded. -/
theorem get_ofEntries {α : Type} {get : Reading → Option α}
    (hrecord : ∀ r e, get (record r e) = (get (record {} e)).or (get r)) (hnone : get {} = none)
    (es : List Entry) : get (ofEntries es) = (es.filterMap fun e => get (record {} e)).getLast? := by
  have hfold (r : Reading) : get (es.foldl record r) =
      (es.filterMap fun e => get (record {} e)).getLast?.or (get r) := by
    induction es using List.reverseRecOn with
    | nil => rfl
    | append_singleton es e ih =>
      rw [List.foldl_append, List.foldl_cons, List.foldl_nil, hrecord, ih, List.filterMap_append,
        List.getLast?_append, Option.or_assoc]
      congr 1
      cases h : get (record {} e) <;> simp [h]
  rw [ofEntries, hfold, hnone, Option.or_none]

/-- A part of a reading is what the last field for it tells, where `g` is what such a field tells. -/
theorem get_entries {α : Type} {get : Reading → Option α}
    (hrecord : ∀ r e, get (record r e) = (get (record {} e)).or (get r)) (hnone : get {} = none)
    {z : Instant} {p : Part} {g : Field → Option α} (hg : ∀ f, f.part? = some p → (g f).isSome)
    (htell : ∀ f : Field,
      ((f.entry? z).bind fun e => get (record {} e)) = if f.part? = some p then g f else none)
    (fs : List Field) :
    get (ofEntries (fs.filterMap (Field.entry? z))) = (Field.last? p fs).bind g := by
  have hfilter : fs.filterMap (fun f => if f.part? = some p then g f else none) =
      (fs.filter fun f => f.part? = some p).filterMap g := by
    simp [List.filterMap_filter]
  rw [get_ofEntries hrecord hnone, List.filterMap_filterMap]
  simp only [htell]
  rw [hfilter, Field.last?]
  exact getLast?_filterMap_of_isSome fun f hf => hg f (by simpa using (List.mem_filter.1 hf).2)

/-- A part that all fields tell alike. -/
theorem get_entries_const {α : Type} {get : Reading → Option α}
    (hrecord : ∀ r e, get (record r e) = (get (record {} e)).or (get r)) (hnone : get {} = none)
    {z : Instant} {p : Part} {a : α}
    (htell : ∀ f : Field,
      ((f.entry? z).bind fun e => get (record {} e)) = if f.part? = some p then some a else none)
    (fs : List Field) :
    get (ofEntries (fs.filterMap (Field.entry? z))) = (Field.last? p fs).map fun _ => a := by
  rw [get_entries hrecord hnone (fun _ _ => rfl) htell, Option.map_eq_bind]
  rfl

theorem meridiem_entries (z : Instant) (fs : List Field) :
    (ofEntries (fs.filterMap (Field.entry? z))).meridiem =
      (Field.last? .meridiem fs).map fun _ => z.time.meridiem := by
  refine get_entries_const (fun r e => by cases e <;> rfl) rfl (fun f => ?_) fs
  rcases f with ⟨q, p⟩ | p | s | s | l | - | -
  · cases q <;> rfl
  all_goals rfl

theorem writtenHour_entries (z : Instant) (fs : List Field) :
    (ofEntries (fs.filterMap (Field.entry? z))).writtenHour =
      (Field.last? .hour fs).map fun f => if f.isHour12 then z.time.hour12 else z.time.hour := by
  rw [Option.map_eq_bind]
  refine get_entries (fun r e => by cases e <;> rfl) rfl (fun _ _ => rfl) (fun f => ?_) fs
  rcases f with ⟨q, p⟩ | p | s | s | l | - | -
  · cases q <;> rfl
  all_goals rfl

/-- **What the last fields tell.** The entries of fields make a reading that says each part of the
instant as the last field for it tells it. -/
theorem tells_ofEntries (z : Instant) (fs : List Field) :
    (ofEntries (fs.filterMap (Field.entry? z))).Tells z fs := by
  constructor
  case meridiem => exact meridiem_entries z fs
  case hour =>
    rw [hour, meridiem_entries, writtenHour_entries]
    cases Field.last? .meridiem fs with
    | none => simp
    | some f =>
      cases Field.last? .hour fs with
      | none => rfl
      | some g => cases hg : g.isHour12 <;> simp [hg]
  case nanosecond =>
    refine get_entries (fun r e => by cases e <;> rfl) rfl
      (fun f hf => by simpa using Field.isSome_precision? hf) (fun f => ?_) fs
    rcases f with ⟨q, p⟩ | p | s | s | l | - | -
    · cases q <;> rfl
    all_goals rfl
  -- Every other part is one that all fields tell alike.
  all_goals
    refine get_entries_const (fun r e => by cases e <;> rfl) rfl (fun f => ?_) fs
    rcases f with ⟨q, p⟩ | p | s | s | l | - | -
    · cases q <;> rfl
    all_goals rfl

end Reading

end DateTemplate
