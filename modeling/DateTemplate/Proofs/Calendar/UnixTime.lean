import DateTemplate.Proofs.Calendar.Range
import DateTemplate.Proofs.Template.Text
import DateTemplate.Proofs.Text.Decimal

/-!
# Unix time and civil time

The seconds since the start of 1970 are told with any fraction dropped, and the local date and time with
the fraction after them. Before 1970 these are different seconds.

* `Date.ofCivil?_eq_some`, `TimeOfDay.ofClock?_eq_some`: a date and a time are found again from the
  numbers that tell them.
* `Instant.civilSeconds?`: the second that the texts of the local date and time tell.
  `Instant.civilSeconds?_eq_some` says that they tell one.
* `Instant.unixSeconds_eq`: the Unix time is the second of the local date and time less the offset, or one
  more.
* `Instant.unixSeconds_eq_civilSeconds_iff`: when both are the same second, and when a Unix time with
  nanoseconds stands for more than one instant.
-/

namespace DateTemplate

/-! ## Dates and times from numbers -/

theorem Date.ofCivil?_eq_some {d : Date} (h₁ : firstYear ≤ d.year) (h₂ : d.year ≤ lastYear) :
    ofCivil? d.year d.month.number d.day = some d := by
  have hbounds := d.dayOfYear_bounds
  have hday : (1 : Int) ≤ d.day ∧ (d.day : Int) ≤ d.month.length (Year.isLeap d.year) := by
    unfold day
    unfold inLeapYear at *
    omega
  have hnumber : d.month.daysBefore (Year.isLeap d.year) + d.day = d.dayOfYear := by
    unfold day
    unfold inLeapYear at *
    omega
  simp only [ofCivil?, guard, h₁, h₂, and_self, if_true, Int.toNat_natCast, Month.ofNumber?_number,
    hday, dite_true, hnumber, Option.bind_eq_bind, Option.bind_some, Option.pure_def]

theorem TimeOfDay.ofClock?_eq_some (t : TimeOfDay) : ofClock? t.hour t.minute t.second 0 =
    some { t with nanosecond := 0, nanosecond_lt := by decide } := by
  have := t.hour_lt
  have := t.minute_lt
  have := t.second_lt
  unfold ofClock?
  rw [dif_pos (by omega)]
  simp only [Int.toNat_natCast, Int.toNat_zero]

/-- The seconds from the start of 1970 to a time of a day, by the same clock. -/
def Date.secondsAt (d : Date) (t : TimeOfDay) : Int := (d.dayNumber - unixEpoch) * 86400 + t.secondOfDay

/-! ## Numbers in texts -/

namespace Template

/-- The integer that the template's text for an instant stands for. -/
def number? (t : Template) (z : Instant) : Option Int := Decimal.read? (t.format z).toList

theorem number?_of_field {t : Template} {s : Specifier} {q : Quantity} {p : Padding}
    (ht : t.tokens = [.specifier s]) (hs : s.field? = some (.number q p)) (z : Instant) :
    t.number? z = some (q.value z) := by
  rw [number?, toList_format, ht, List.flatMap_singleton, Token.render_field z hs, Field.render]
  cases p <;> rw [Padding.render, Decimal.read?_padded]

theorem number?_of_derived {t : Template} {s : Specifier} {d : Derived} (ht : t.tokens = [.specifier s])
    (hs : s.items? = none) (hd : s.derived? = some d) (z : Instant) : t.number? z = some (d.value z) := by
  rw [number?, toList_format_derived ht hs hd, Derived.render, Decimal.read?_padded]

end Template

/-- The seconds from the start of 1970 to the local date and time, the way six texts tell these. -/
def Instant.civilSeconds? (z : Instant) : Option Int := do
  let year ← Template.number? ⟨"%Y"⟩ z
  let month ← Template.number? ⟨"%m"⟩ z
  let day ← Template.number? ⟨"%d"⟩ z
  let hour ← Template.number? ⟨"%H"⟩ z
  let minute ← Template.number? ⟨"%M"⟩ z
  let second ← Template.number? ⟨"%S"⟩ z
  let date ← Date.ofCivil? year month day
  let time ← TimeOfDay.ofClock? hour minute second 0
  return date.secondsAt time

namespace Instant

theorem civilSeconds?_eq_some (z : Instant) : z.civilSeconds? = some (z.date.secondsAt z.time) := by
  have hdate := Date.ofCivil?_eq_some z.firstYear_le_year z.year_le_lastYear
  simp only [civilSeconds?, Quantity.value, Option.bind_eq_bind, Option.bind_some, Option.pure_def, hdate,
    TimeOfDay.ofClock?_eq_some,
    Template.number?_of_field (t := ⟨"%Y"⟩) (s := ⟨'Y', true⟩) rfl rfl,
    Template.number?_of_field (t := ⟨"%m"⟩) (s := ⟨'m', true⟩) rfl rfl,
    Template.number?_of_field (t := ⟨"%d"⟩) (s := ⟨'d', true⟩) rfl rfl,
    Template.number?_of_field (t := ⟨"%H"⟩) (s := ⟨'H', true⟩) rfl rfl,
    Template.number?_of_field (t := ⟨"%M"⟩) (s := ⟨'M', true⟩) rfl rfl,
    Template.number?_of_field (t := ⟨"%S"⟩) (s := ⟨'S', true⟩) rfl rfl]
  rfl

/-! ## The two seconds -/

theorem nanoseconds_eq (z : Instant) : z.nanoseconds =
    (z.date.secondsAt z.time - z.offset.seconds) * 1000000000 + z.time.nanosecond := by
  have hlocal := z.localNanoseconds_eq
  rw [localNanoseconds, TimeOfDay.nanosecondOfDay] at hlocal
  unfold Date.secondsAt
  omega

/-- Dropping a fraction before 1970 leaves the second after it. -/
theorem unixSeconds_eq (z : Instant) : z.unixSeconds = z.date.secondsAt z.time - z.offset.seconds +
    if z.nanoseconds < 0 ∧ z.time.nanosecond ≠ 0 then 1 else 0 := by
  have hns := z.nanoseconds_eq
  have hlt := z.time.nanosecond_lt
  have hsign : Int.sign 1000000000 = 1 := rfl
  rw [unixSeconds, Int.tdiv_eq_ediv, hsign]
  split <;> split <;> omega

/-- Whether two instants are one second apart and the start of 1970 is between them. -/
def SurroundEpoch (z z' : Instant) : Prop :=
  (z.nanoseconds - z'.nanoseconds).natAbs = 1000000000 ∧
    z.nanoseconds.natAbs < 1000000000 ∧ z'.nanoseconds.natAbs < 1000000000

theorem unixSeconds_eq_and_nanosecond_eq_iff (z z' : Instant) :
    z.unixSeconds = z'.unixSeconds ∧ z.time.nanosecond = z'.time.nanosecond ↔
      z.nanoseconds = z'.nanoseconds ∨ z.SurroundEpoch z' := by
  have hns := z.nanoseconds_eq
  have hns' := z'.nanoseconds_eq
  have hlt := z.time.nanosecond_lt
  have hlt' := z'.time.nanosecond_lt
  unfold SurroundEpoch
  rw [unixSeconds_eq, unixSeconds_eq]
  generalize z.date.secondsAt z.time - z.offset.seconds = s at *
  generalize z'.date.secondsAt z'.time - z'.offset.seconds = s' at *
  split <;> split <;> omega

theorem toList_format_seconds_nanoseconds (z : Instant) : (Template.format ⟨"%s.%N"⟩ z).toList =
    Decimal.padded .zero 0 z.unixSeconds ++ '.' :: Decimal.padded .zero 9 z.time.nanosecond := by
  have htokens : Template.tokens ⟨"%s.%N"⟩ =
      [.specifier ⟨'s', true⟩, .literal '.', .specifier ⟨'N', true⟩] := rfl
  have hunit (n : Nat) : Precision.nanoseconds.render n = Decimal.padded .zero 9 n := by
    rw [Precision.render, Precision.unit, Nat.div_one, Precision.digits]
  rw [Template.toList_format, htokens, List.flatMap_cons, List.flatMap_cons, List.flatMap_singleton,
    Token.render_derived z (d := .unixSeconds) rfl rfl,
    Token.render_field z (f := .fraction .nanoseconds) rfl, Field.render, hunit]
  rfl

theorem format_seconds_nanoseconds_eq_iff (z z' : Instant) :
    Template.format ⟨"%s.%N"⟩ z = Template.format ⟨"%s.%N"⟩ z' ↔
      z.unixSeconds = z'.unixSeconds ∧ z.time.nanosecond = z'.time.nanosecond := by
  have hlength (z : Instant) :
      ('.' :: Decimal.padded .zero 9 (z.time.nanosecond : Int)).length = 10 := by
    have := Decimal.digitCount_le (k := 9) (by decide) z.time.nanosecond_lt
    rw [List.length_cons, Decimal.length_padded_natCast]
    omega
  rw [← String.toList_inj, toList_format_seconds_nanoseconds, toList_format_seconds_nanoseconds]
  constructor
  · intro h
    obtain ⟨hs, hn⟩ := List.append_inj' h ((hlength z).trans (hlength z').symm)
    have hn := (List.cons.inj hn).2
    exact ⟨Decimal.padded_injective hs, Int.ofNat_inj.1 (Decimal.padded_injective hn)⟩
  · rintro ⟨hs, hn⟩
    rw [hs, hn]

/-- **Unix time and civil time.** The Unix time and the offset make the second that the local date and time
tell, exactly if the instant is not before 1970 or is at a whole second. Otherwise they make the next one.
With the nanoseconds behind it, a Unix time stands for one instant, or for two that the start of 1970 lies
between. -/
theorem unixSeconds_eq_civilSeconds_iff (z : Instant) :
    ∃ s c, Template.number? ⟨"%s"⟩ z = some s ∧ z.civilSeconds? = some c ∧
      (s + z.offset.seconds = c ↔ 0 ≤ z.nanoseconds ∨ z.time.nanosecond = 0) ∧
      (s + z.offset.seconds = c ∨ s + z.offset.seconds = c + 1) ∧
      ∀ z' : Instant, Template.format ⟨"%s.%N"⟩ z = Template.format ⟨"%s.%N"⟩ z' ↔
        z.nanoseconds = z'.nanoseconds ∨ z.SurroundEpoch z' := by
  have hs : Template.number? ⟨"%s"⟩ z = some z.unixSeconds :=
    Template.number?_of_derived (s := ⟨'s', true⟩) (d := .unixSeconds) rfl rfl rfl z
  have hsec := z.unixSeconds_eq
  refine ⟨_, _, hs, z.civilSeconds?_eq_some, ?_, ?_, fun z' => ?_⟩
  · split at hsec <;> omega
  · split at hsec <;> omega
  · rw [format_seconds_nanoseconds_eq_iff, unixSeconds_eq_and_nanosecond_eq_iff]

/-- Half a second before 1970 is told as second 0, and with its nanoseconds as half a second after the
start of 1970. -/
theorem unixSeconds_ne_civilSeconds_before_epoch :
    let z : Instant := ⟨-500000000, .utc, none, by decide, by decide⟩
    let z' : Instant := ⟨500000000, .utc, none, by decide, by decide⟩
    Template.number? ⟨"%s"⟩ z = some 0 ∧ z.offset.seconds = 0 ∧ z.civilSeconds? = some (-1) ∧
      z.nanoseconds ≠ z'.nanoseconds ∧
      Template.format ⟨"%s.%N"⟩ z = Template.format ⟨"%s.%N"⟩ z' := by
  refine ⟨?_, by decide, ?_, by decide, ?_⟩
  all_goals decide +kernel

end Instant

end DateTemplate
