import DateTemplate.Proofs.Calendar.Range
import DateTemplate.Proofs.Template.Text
import DateTemplate.Proofs.Text.Decimal

/-!
# Weeks of the year

The number of a week is worked out from the weekday of January 1. It is also a count, which goes up by one
with each day that begins a week.

* `Date.daysSince_weekday`: from January 1 on the days of the week follow each other.
* `Date.induction_dayOfYear`: induction over the days of a year.
* `Date.weekOfYear_first`, `Date.weekOfYear_next`: the number of the week on January 1, and from one day
  to the next. `Date.startsInYear_first`, `Date.startsInYear_next` say the same of the count.
* `Date.weekOfYear_eq_startsInYear`: the number of a week is how many weeks have begun.
* `Date.weekOfYear_eq_zero_iff`: week 0 has the days before the first week that begins in the year.
* `Template.format_weekOfYear`: the texts of these numbers.
-/

namespace DateTemplate

/-! ## Days of the week -/

namespace Weekday

theorem index_inj {w w' : Weekday} (h : w.index = w'.index) : w = w' := by
  rw [← ofIndex_index w, h, ofIndex_index]

theorem daysSince_lt (w start : Weekday) : w.daysSince start < 7 := Nat.mod_lt _ (by decide)

theorem daysSince_eq_zero_iff (w start : Weekday) : w.daysSince start = 0 ↔ w = start := by
  have := w.index_lt
  have := start.index_lt
  unfold daysSince
  constructor
  · intro h
    exact index_inj (by omega)
  · rintro rfl
    omega

end Weekday

namespace Date

theorem index_weekday (d : Date) : (d.weekday.index : Int) = (d.dayNumber + 5) % 7 := by
  have hsaturday : Weekday.saturday.index = 5 := rfl
  rw [weekday, Weekday.index_ofIndex, hsaturday]
  omega

/-- From January 1 on the days of the week follow each other. -/
theorem daysSince_weekday (d : Date) (start : Weekday) :
    d.weekday.daysSince start = (d.newYear.weekday.daysSince start + d.dayOfYear - 1) % 7 := by
  have hd := d.index_weekday
  have hnew := d.newYear.index_weekday
  have := d.one_le_dayOfYear
  have := start.index_lt
  simp only [dayNumber, newYear] at hd hnew
  unfold Weekday.daysSince
  simp only [newYear]
  omega

/-! ## Days of the year -/

theorem eq_of_dayOfYear_eq {d e : Date} (hy : d.year = e.year) (hn : d.dayOfYear = e.dayOfYear) : d = e := by
  cases d
  cases e
  simp_all only

/-- What holds of January 1, and of a day if it holds of the one before it, holds of the whole year. -/
theorem induction_dayOfYear {P : Date → Prop} (first : ∀ d, d.dayOfYear = 1 → P d)
    (next : ∀ d e, e.year = d.year → e.dayOfYear = d.dayOfYear + 1 → P d → P e) (d : Date) : P d := by
  obtain ⟨y, n, h₁, h₂⟩ := d
  induction n with
  | zero => exact absurd h₁ (by decide)
  | succ n ih =>
    rcases Nat.eq_zero_or_pos n with rfl | hn
    · exact first _ rfl
    · have hle : n ≤ Year.length y := Nat.le_of_succ_le h₂
      exact next ⟨y, n, hn, hle⟩ _ rfl rfl (ih hn hle)

/-! ## The number and the count, day by day -/

section

variable {d e : Date} (start : Weekday)

theorem weekOfYear_first (h : d.dayOfYear = 1) :
    d.weekOfYear start = if d.weekday = start then 1 else 0 := by
  have hday := d.daysSince_weekday start
  have hlt := d.newYear.weekday.daysSince_lt start
  rw [← if_congr (Weekday.daysSince_eq_zero_iff d.weekday start) rfl rfl, weekOfYear, firstStart]
  split <;> split <;> omega

theorem weekOfYear_next (hy : e.year = d.year) (hn : e.dayOfYear = d.dayOfYear + 1) :
    e.weekOfYear start = d.weekOfYear start + if e.weekday = start then 1 else 0 := by
  have hday := e.daysSince_weekday start
  have hlt := d.newYear.weekday.daysSince_lt start
  have hnew : e.newYear = d.newYear := by simp only [newYear, hy]
  rw [hnew] at hday
  rw [← if_congr (Weekday.daysSince_eq_zero_iff e.weekday start) rfl rfl, weekOfYear, weekOfYear,
    firstStart, firstStart, hnew]
  split <;> split <;> split <;> omega

theorem startsInYear_first (h : d.dayOfYear = 1) :
    d.startsInYear start = if d.weekday = start then 1 else 0 := by
  have hd : ofDayNumber (Year.daysBefore d.year) = d := by
    have := d.ofDayNumber_dayNumber
    rwa [dayNumber, h, Int.natCast_one, Int.add_sub_cancel] at this
  rw [startsInYear, h]
  simp [hd, List.countP_cons, List.range_succ]

theorem startsInYear_next (hy : e.year = d.year) (hn : e.dayOfYear = d.dayOfYear + 1) :
    e.startsInYear start = d.startsInYear start + if e.weekday = start then 1 else 0 := by
  have he : ofDayNumber (Year.daysBefore d.year + d.dayOfYear) = e := by
    have := e.ofDayNumber_dayNumber
    rwa [dayNumber, hy, hn, Int.natCast_succ, ← Int.add_assoc, Int.add_sub_cancel] at this
  rw [startsInYear, startsInYear, hn, hy, List.range_succ, List.countP_append]
  simp [he, List.countP_cons]

/-! ## The number is the count -/

theorem weekOfYear_eq_startsInYear (d : Date) : d.weekOfYear start = d.startsInYear start := by
  induction d using induction_dayOfYear with
  | first d h => rw [weekOfYear_first start h, startsInYear_first start h]
  | next d e hy hn ih => rw [weekOfYear_next start hy hn, startsInYear_next start hy hn, ih]

theorem weekOfYear_le (d : Date) : d.weekOfYear start ≤ 53 := by
  have := d.dayOfYear_le_366
  unfold weekOfYear firstStart
  split <;> omega

theorem weekOfYear_eq_zero_iff (d : Date) : d.weekOfYear start = 0 ↔
    ∀ e : Date, e.year = d.year → e.dayOfYear ≤ d.dayOfYear → e.weekday ≠ start := by
  induction d using induction_dayOfYear with
  | first d h =>
    have heq (e : Date) (hy : e.year = d.year) (hle : e.dayOfYear ≤ d.dayOfYear) : e = d := by
      have := e.one_le_dayOfYear
      exact eq_of_dayOfYear_eq hy (by omega)
    rw [weekOfYear_first start h]
    constructor
    · intro hd e hy hle
      rw [heq e hy hle]
      simpa using hd
    · intro hall
      rw [if_neg (hall d rfl (Nat.le_refl _))]
  | next d e hy hn ih =>
    rw [weekOfYear_next start hy hn, Nat.add_eq_zero_iff, ih]
    constructor
    · rintro ⟨hall, he⟩ f hf hle
      by_cases hlast : f.dayOfYear = e.dayOfYear
      · rw [eq_of_dayOfYear_eq hf hlast]
        simpa using he
      · exact hall f (hf.trans hy) (by omega)
    · intro hall
      refine ⟨fun f hf hle => hall f (hf.trans hy.symm) (by omega), ?_⟩
      rw [if_neg (hall e rfl (Nat.le_refl _))]

end

end Date

/-! ## The texts -/

namespace Template

theorem toList_format_week {t : Template} {s : Specifier} {w : Derived} {z : Instant} {start : Weekday}
    (ht : t.tokens = [.specifier s]) (hs : s.items? = none) (hw : s.derived? = some w)
    (hfill : w.fill = .zero) (hwidth : w.width = 2) (hvalue : w.value z = z.date.weekOfYear start) :
    (t.format z).toList =
      Decimal.padded .zero (if s.padded then 2 else 0) (z.date.startsInYear start : Nat) := by
  rw [toList_format_derived ht hs hw, Derived.render, hfill, hwidth, hvalue,
    Date.weekOfYear_eq_startsInYear]

/-- **Weeks of the year.** The texts are the number of Sundays or Mondays from January 1 up to the day. The
number is 0 before the first of these days and at most 53, and from one day of a year to the next it goes up
by one if a week begins, and otherwise stays. -/
theorem format_weekOfYear (z : Instant) :
    (format ⟨"%U"⟩ z).toList = Decimal.padded .zero 2 (z.date.startsInYear .sunday : Nat) ∧
      (format ⟨"%-U"⟩ z).toList = Decimal.digits (z.date.startsInYear .sunday) ∧
      (format ⟨"%W"⟩ z).toList = Decimal.padded .zero 2 (z.date.startsInYear .monday : Nat) ∧
      (format ⟨"%-W"⟩ z).toList = Decimal.digits (z.date.startsInYear .monday) ∧
      ∀ (start : Weekday) (d : Date),
        (d.startsInYear start = 0 ↔
          ∀ e : Date, e.year = d.year → e.dayOfYear ≤ d.dayOfYear → e.weekday ≠ start) ∧
        d.startsInYear start ≤ 53 ∧
        ∀ e : Date, e.year = d.year → e.dayOfYear = d.dayOfYear + 1 →
          e.startsInYear start = d.startsInYear start + if e.weekday = start then 1 else 0 := by
  have hdigits (n : Nat) : Decimal.digits n = Decimal.padded .zero 0 (n : Int) := by
    rw [Decimal.padded_natCast, Nat.zero_sub, List.replicate_zero, List.nil_append]
  rw [hdigits, hdigits]
  refine ⟨?_, ?_, ?_, ?_, fun start d => ⟨?_, ?_, fun e hy hn => Date.startsInYear_next start hy hn⟩⟩
  · exact toList_format_week (s := ⟨'U', true⟩) rfl rfl rfl rfl rfl rfl
  · exact toList_format_week (s := ⟨'U', false⟩) rfl rfl rfl rfl rfl rfl
  · exact toList_format_week (s := ⟨'W', true⟩) rfl rfl rfl rfl rfl rfl
  · exact toList_format_week (s := ⟨'W', false⟩) rfl rfl rfl rfl rfl rfl
  · rw [← Date.weekOfYear_eq_startsInYear, Date.weekOfYear_eq_zero_iff]
  · rw [← Date.weekOfYear_eq_startsInYear]
    exact Date.weekOfYear_le start d

/-- Year 0 begins on a Saturday. On January 2 the first week that begins on Sunday begins, and none that
begins on Monday. -/
theorem format_weekOfYear_of_year_zero :
    let z : Instant := ⟨-719527 * 86400000000000, .utc, none, by decide, by decide⟩
    let d := z.date.newYear
    z.date.year = d.year ∧ z.date.dayOfYear = d.dayOfYear + 1 ∧
      (format ⟨"%U"⟩ z).toList = ['0', '1'] ∧ (format ⟨"%-W"⟩ z).toList = ['0'] ∧
      d.startsInYear .sunday = 0 ∧ z.date.startsInYear .sunday = d.startsInYear .sunday + 1 := by
  intro z d
  obtain ⟨hsunday, -, -, hmonday, hweeks⟩ := format_weekOfYear z
  have hday : z.date.dayOfYear = d.dayOfYear + 1 := by decide +kernel
  have hnext := (hweeks .sunday d).2.2 z.date rfl hday
  have hstarts : z.date.startsInYear .sunday = 1 := by decide +kernel
  have hstarts' : z.date.startsInYear .monday = 0 := by decide +kernel
  have hweekday : z.date.weekday = .sunday := by decide +kernel
  rw [hstarts] at hsunday
  rw [hstarts'] at hmonday
  rw [if_pos hweekday] at hnext
  exact ⟨rfl, hday, hsunday.trans (by decide +kernel), hmonday, by omega, hnext⟩

end Template

end DateTemplate
