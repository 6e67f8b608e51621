import DateTemplate.Proofs.Calendar.WeekOfYear
import DateTemplate.Proofs.Text.Order

/-!
# Week dates

A day can be named by a year, a week and a day of the week. There are three ways to count the weeks, and
with each of them the names sort like the days.

* `Date.compare_weekOfYear`, `Date.compare_isoWeek`: days in the order of the weeks that they are in.
  `Date.compare_thursday` says of ISO weeks that their Thursdays are in this order.
* `WeekDate`: a way to count the weeks, and the template for it.
* `WeekDate.compare_dayNumber`: with each of the ways, year, week and day of the week decide in turn.
* `WeekDate.toList_format_template`: the names as texts.
* `WeekDate.compare_format`: the texts are in the order of the days.
-/

namespace DateTemplate

/-! ## Days in the order of their weeks -/

theorem Weekday.compare_number (w w' : Weekday) :
    compare w.number w'.number = compare (w.daysSince .monday) (w'.daysSince .monday) := by
  have hmonday : monday.index = 0 := rfl
  have := w.index_lt
  have := w'.index_lt
  unfold number daysSince
  exact compare_congr (by omega) (by omega) (by omega)

namespace Date

theorem dayNumber_inj {d e : Date} (h : d.dayNumber = e.dayNumber) : d = e := by
  rw [← d.ofDayNumber_dayNumber, h, ofDayNumber_dayNumber]

theorem daysBefore_le_dayNumber {d : Date} {y : Int} (h : y ≤ d.year) :
    Year.daysBefore y ≤ d.dayNumber := by
  have := Year.daysBefore_le h
  have := d.one_le_dayOfYear
  unfold dayNumber
  omega

theorem dayNumber_lt_daysBefore {d : Date} {y : Int} (h : d.year < y) :
    d.dayNumber < Year.daysBefore y := by
  have hyears := Year.daysBefore_le (Int.add_one_le_of_lt h)
  rw [Year.daysBefore_succ] at hyears
  have := d.dayOfYear_le
  unfold dayNumber
  omega

theorem dayNumber_lt_of_year_lt {d e : Date} (h : d.year < e.year) : d.dayNumber < e.dayNumber :=
  Int.lt_of_lt_of_le (dayNumber_lt_daysBefore h) (daysBefore_le_dayNumber (Int.le_refl _))

/-- Days are in the order of their years, then of the weeks of the year, then of the days of the week,
counted from the day that weeks begin on. -/
theorem compare_weekOfYear (d e : Date) (start : Weekday) : compare d.dayNumber e.dayNumber =
    (compare d.year e.year).then ((compare (d.weekOfYear start) (e.weekOfYear start)).then
      (compare (d.weekday.daysSince start) (e.weekday.daysSince start))) := by
  refine compare_eq_then dayNumber_lt_of_year_lt dayNumber_lt_of_year_lt fun hy => ?_
  have hd := d.daysSince_weekday start
  have he := e.daysSince_weekday start
  have hlt := e.newYear.weekday.daysSince_lt start
  have hnew : d.newYear = e.newYear := by simp only [newYear, hy]
  have := d.one_le_dayOfYear
  have := e.one_le_dayOfYear
  -- The weeks of both days are counted from the same January 1.
  rw [hnew] at hd
  rw [dayNumber, dayNumber, hy, weekOfYear, weekOfYear, firstStart, firstStart, hnew]
  refine compare_eq_then (fun h => ?_) (fun h => ?_) (fun h => compare_congr ?_ ?_ ?_)
  all_goals split at h <;> split at h <;> omega

/-! ## ISO weeks -/

theorem dayNumber_thursday (d : Date) :
    d.thursday.dayNumber = d.dayNumber - d.weekday.index + 3 := by
  rw [thursday, dayNumber_ofDayNumber]
  rfl

theorem thursday_mod (d : Date) : d.thursday.dayNumber % 7 = 5 := by
  have := d.dayNumber_thursday
  have := d.index_weekday
  omega

theorem isoWeekYear_le {d : Date} (h : d.year ≤ lastYear) : d.isoWeekYear ≤ lastYear := by
  have hthursday := d.dayNumber_thursday
  have hmod := d.thursday_mod
  have hlt := dayNumber_lt_daysBefore (Int.lt_add_one_of_le h)
  have hnext : Year.daysBefore (lastYear + 1) = 3652425 := rfl
  refine Int.not_lt.1 fun hgt => ?_
  have := daysBefore_le_dayNumber (Int.add_one_le_of_lt hgt)
  omega

theorem isoWeek_le (d : Date) : d.isoWeek ≤ 53 := by
  have := d.thursday.dayOfYear_le_366
  unfold isoWeek
  omega

/-- ISO weeks are in the order of their Thursdays. -/
theorem compare_thursday (d e : Date) : compare d.thursday.dayNumber e.thursday.dayNumber =
    (compare d.isoWeekYear e.isoWeekYear).then (compare d.isoWeek e.isoWeek) := by
  refine compare_eq_then dayNumber_lt_of_year_lt dayNumber_lt_of_year_lt fun hy => ?_
  have hd := d.thursday_mod
  have he := e.thursday_mod
  have hyear : Year.daysBefore d.thursday.year = Year.daysBefore e.thursday.year := congrArg _ hy
  have := d.thursday.one_le_dayOfYear
  have := e.thursday.one_le_dayOfYear
  unfold isoWeek
  unfold dayNumber at *
  exact compare_congr (by omega) (by omega) (by omega)

theorem compare_dayNumber_thursday (d e : Date) : compare d.dayNumber e.dayNumber =
    (compare d.thursday.dayNumber e.thursday.dayNumber).then
      (compare d.weekday.number e.weekday.number) := by
  have hlt {d e : Date} (h : d.thursday.dayNumber < e.thursday.dayNumber) :
      d.dayNumber < e.dayNumber := by
    -- Two Thursdays are a week apart, and two days of a week less.
    have := d.dayNumber_thursday
    have := e.dayNumber_thursday
    have := d.thursday_mod
    have := e.thursday_mod
    have := d.weekday.index_lt
    have := e.weekday.index_lt
    omega
  refine compare_eq_then hlt hlt fun h => ?_
  rw [dayNumber_thursday, dayNumber_thursday] at h
  unfold Weekday.number
  exact compare_congr (by omega) (by omega) (by omega)

/-- Days are in the order of their ISO weeks, and in a week in that of their numbers. -/
theorem compare_isoWeek (d e : Date) : compare d.dayNumber e.dayNumber =
    (compare d.isoWeekYear e.isoWeekYear).then ((compare d.isoWeek e.isoWeek).then
      (compare d.weekday.number e.weekday.number)) := by
  rw [compare_dayNumber_thursday, compare_thursday, Ordering.then_assoc]

end Date

/-! ## Three ways to count weeks -/

/-- A way to name days by weeks. -/
inductive WeekDate where
  /-- ISO weeks, which all have seven days. -/
  | iso
  /-- The weeks of the year, which begin on Monday. -/
  | monday
  /-- The weeks of the year, which begin on Sunday. -/
  | sunday
deriving DecidableEq

namespace WeekDate

/-- The template of the names. -/
def template : WeekDate → Template
  | iso => ⟨"%G-W%V-%u"⟩
  | monday => ⟨"%Y-%W-%u"⟩
  | sunday => ⟨"%Y-%U-%w"⟩

/-- The year that the week is counted in. -/
def year (d : Date) : WeekDate → Int
  | iso => d.isoWeekYear
  | monday | sunday => d.year

/-- The number of the week. -/
def week (d : Date) : WeekDate → Nat
  | iso => d.isoWeek
  | monday => d.weekOfYear .monday
  | sunday => d.weekOfYear .sunday

/-- The number of the day of the week. -/
def day (d : Date) : WeekDate → Nat
  | iso | monday => d.weekday.number
  | sunday => d.weekday.daysSince .sunday

/-- What stands between the year and the number of the week. -/
def separator : WeekDate → List Char
  | iso => ['-', 'W']
  | monday | sunday => ['-']

theorem year_le {d : Date} (h : d.year ≤ Date.lastYear) (w : WeekDate) : w.year d ≤ 9999 := by
  cases w with
  | iso => exact Date.isoWeekYear_le h
  | monday => exact h
  | sunday => exact h

theorem week_lt (d : Date) (w : WeekDate) : w.week d < 100 := by
  cases w with
  | iso => exact Nat.lt_of_le_of_lt d.isoWeek_le (by decide)
  | monday => exact Nat.lt_of_le_of_lt (d.weekOfYear_le .monday) (by decide)
  | sunday => exact Nat.lt_of_le_of_lt (d.weekOfYear_le .sunday) (by decide)

theorem day_lt (d : Date) (w : WeekDate) : w.day d < 10 := by
  have := d.weekday.index_lt
  have := d.weekday.daysSince_lt .sunday
  cases w <;> simp only [day, Weekday.number] <;> omega

/-- With each of the ways, the year, the week and the day of the week decide in turn. -/
theorem compare_dayNumber (d e : Date) (w : WeekDate) : compare d.dayNumber e.dayNumber =
    (compare (w.year d) (w.year e)).then
      ((compare (w.week d) (w.week e)).then (compare (w.day d) (w.day e))) := by
  cases w with
  | iso => exact d.compare_isoWeek e
  | monday =>
    rw [d.compare_weekOfYear e .monday, ← Weekday.compare_number]
    rfl
  | sunday => exact d.compare_weekOfYear e .sunday

/-! ## The texts -/

theorem toList_format_template (z : Instant) (w : WeekDate) : (w.template.format z).toList =
    Decimal.padded .zero 4 (w.year z.date) ++ (w.separator ++
      (Decimal.padded .zero 2 (w.week z.date : Nat) ++ (['-'] ++
        (Decimal.padded .zero 0 (w.day z.date : Nat) ++ [])))) := by
  have hyear : Decimal.padded .zero 4 z.date.year = Token.render z (.specifier ⟨'Y', true⟩) :=
    (Token.render_field z (f := .number .year .zeros) rfl).symm
  rw [Template.toList_format]
  cases w with
  | iso => rfl
  | monday =>
    rw [year, hyear]
    rfl
  | sunday =>
    rw [year, hyear]
    rfl

/-- Years of four digits, weeks of two and days of one are in the order of their texts. -/
theorem compare_texts {y y' v v' n n' : Nat} (hy : y < 10 ^ 4) (hy' : y' < 10 ^ 4) (hv : v < 10 ^ 2)
    (hv' : v' < 10 ^ 2) (hn : n < 10) (hn' : n' < 10) (separator : List Char) :
    compare
        (Decimal.padded .zero 4 (y : Int) ++ (separator ++ (Decimal.padded .zero 2 (v : Int) ++ (['-'] ++
          (Decimal.padded .zero 0 (n : Int) ++ [])))))
        (Decimal.padded .zero 4 (y' : Int) ++ (separator ++ (Decimal.padded .zero 2 (v' : Int) ++ (['-'] ++
          (Decimal.padded .zero 0 (n' : Int) ++ []))))) =
      (compare y y').then ((compare v v').then (compare n n')) := by
  have hwidth {w m : Nat} (hw : 0 < w) (hm : m < 10 ^ w) : max w (Decimal.digitCount m) = w :=
    Nat.max_eq_left (Decimal.digitCount_le hw hm)
  have hdigit {m : Nat} (hm : m < 10) : Decimal.digitCount m = 1 := by
    rw [Decimal.digitCount, if_pos hm]
  rw [Decimal.compare_padded_append ((hwidth (by decide) hy).trans (hwidth (by decide) hy').symm),
    compare_append_left,
    Decimal.compare_padded_append ((hwidth (by decide) hv).trans (hwidth (by decide) hv').symm),
    compare_append_left, Decimal.compare_padded_append (by rw [hdigit hn, hdigit hn']),
    Std.ReflOrd.compare_self, Ordering.then_eq]

/-- **Week dates.** If the years that they show are not negative, two texts are in the order of the days,
and are the same only for the same day. -/
theorem compare_format {z z' : Instant} {w : WeekDate} (hz : 0 ≤ w.year z.date)
    (hz' : 0 ≤ w.year z'.date) :
    compare (w.template.format z) (w.template.format z') = compare z.date.dayNumber z'.date.dayNumber ∧
      (w.template.format z = w.template.format z' ↔ z.date = z'.date) := by
  have hcompare : compare (w.template.format z) (w.template.format z') =
      compare z.date.dayNumber z'.date.dayNumber := by
    have hy := w.year_le z.year_le_lastYear
    have hy' := w.year_le z'.year_le_lastYear
    obtain ⟨y, hyear⟩ := Int.eq_ofNat_of_zero_le hz
    obtain ⟨y', hyear'⟩ := Int.eq_ofNat_of_zero_le hz'
    have hyears : compare (y : Int) (y' : Int) = compare y y' :=
      compare_congr Int.ofNat_lt.2 Int.ofNat_lt.2 (congrArg _)
    rw [compare_toList, toList_format_template, toList_format_template, compare_dayNumber _ _ w, hyear,
      hyear', hyears]
    exact compare_texts (by omega) (by omega) (w.week_lt _) (w.week_lt _) (w.day_lt _) (w.day_lt _) _
  refine ⟨hcompare, ?_⟩
  rw [← compare_eq_iff_eq, hcompare, compare_eq_iff_eq]
  exact ⟨Date.dayNumber_inj, congrArg _⟩

/-- The first Sunday of 2021 is still in the last week of 2020, and the next week begins the day after. -/
theorem compare_format_of_year_end :
    let z : Instant := ⟨1609632000 * 1000000000, .utc, none, by decide, by decide⟩
    let z' : Instant := ⟨1609718400 * 1000000000, .utc, none, by decide, by decide⟩
    0 ≤ iso.year z.date ∧ 0 ≤ iso.year z'.date ∧
      iso.template.format z = "2020-W53-7" ∧ iso.template.format z' = "2021-W01-1" ∧
      compare (iso.template.format z) (iso.template.format z') = .lt ∧
      iso.template.format z ≠ iso.template.format z' := by
  intro z z'
  have hyear : 0 ≤ iso.year z.date := by decide +kernel
  have hyear' : 0 ≤ iso.year z'.date := by decide +kernel
  have hdates : z.date ≠ z'.date := by decide +kernel
  have hdays : compare z.date.dayNumber z'.date.dayNumber = .lt := by decide +kernel
  obtain ⟨hcompare, hiff⟩ := compare_format hyear hyear'
  refine ⟨hyear, hyear', ?_, ?_, hcompare.trans hdays, mt hiff.1 hdates⟩
  all_goals decide +kernel

end WeekDate

end DateTemplate
