import ServiceOperator.Time.Instant
import Mathlib.Tactic.IntervalCases

/-!
# Dates and days

A day is a place in an era of 400 years (`DayOfEra`), and the four numbers of the place say what
the date of the day is (`dateFromDays_eq`).  From it the two readings of a date follow: the days up
to the date of a day are that day again (`daysFromDate_dateFromDays`), and the date is one that the
calendar has (`dateFromDays_valid`).

### Years that begin in March

The calendar counts its years from the first of March, so that the day that a leap year has more is
its last one.  Then of the centuries of an era, of the groups of four years in a century and of the
years in such a group only the last one may differ in length from the others, and the quotient by
which the definition finds the year is right for every place (`DayOfEra.yearOfEra_eq`).
-/

namespace ServiceOperator

namespace Instant

/-! ## The place of a day in its era -/

/-- A day of an era, the 400 years that begin on the first of March of a year divisible by 400: the
century, the four years within it, the year within them, and the day within the year.  A year has a
day more if it ends in the February of a leap year. -/
structure DayOfEra where
  century : Int
  four : Int
  year : Int
  ofYear : Int
  century_bounds : 0 ≤ century ∧ century ≤ 3
  four_bounds : 0 ≤ four ∧ four ≤ 24
  year_bounds : 0 ≤ year ∧ year ≤ 3
  ofYear_bounds : 0 ≤ ofYear ∧ ofYear ≤ 365
  leap : ofYear = 365 → year = 3 ∧ (four = 24 → century = 3)

namespace DayOfEra

variable (p : DayOfEra)

/-- The number of the day within the era. -/
def number : Int := 36524 * p.century + 1461 * p.four + 365 * p.year + p.ofYear

/-- The number of the year within the era. -/
def yearOfEra : Int := 100 * p.century + 4 * p.four + p.year

/-- Every day of an era has its place. -/
theorem exists_number_eq {day : Int} (begun : 0 ≤ day) (ends : day < 146097) :
    ∃ p : DayOfEra, p.number = day := by
  let century := min 3 (day / 36524)
  let rest := day - 36524 * century
  let four := rest / 1461
  let year := min 3 (rest % 1461 / 365)
  refine ⟨⟨century, four, year, rest % 1461 - 365 * year, ?_, ?_, ?_, ?_, ?_⟩, ?_⟩
  all_goals
    dsimp only [number, century, rest, four, year]
    omega

/-- The quotient that the calendar reads the year off. -/
theorem yearOfEra_eq :
    (p.number - p.number / 1460 + p.number / 36524 - p.number / 146096) / 365 = p.yearOfEra := by
  obtain ⟨c, k, j, n, hc, hk, hj, hn, leap⟩ := p
  dsimp only [number, yearOfEra]
  generalize number_eq : 36524 * c + 1461 * k + 365 * j + n = d
  -- The last day of an era is alone in a fifth century; elsewhere the quotients are as they look.
  by_cases last : d = 146096
  · subst last
    omega
  have era : d / 146096 = 0 := by omega
  have century : d / 36524 = c := by omega
  have fours : d / 1460 = 25 * c + k ∨ d / 1460 = 25 * c + k + 1 := by omega
  rw [era, century]
  rcases fours with fours | fours <;> rw [fours] <;> omega

/-- The day within the year is what is left once the years before are taken off. -/
theorem ofYear_eq :
    p.number - (365 * p.yearOfEra + p.yearOfEra / 4 - p.yearOfEra / 100) = p.ofYear := by
  obtain ⟨c, k, j, n, hc, hk, hj, hn, leap⟩ := p
  dsimp only [number, yearOfEra]
  omega

theorem yearOfEra_bounds : 0 ≤ p.yearOfEra ∧ p.yearOfEra ≤ 399 := by
  obtain ⟨c, k, j, n, hc, hk, hj, hn, leap⟩ := p
  dsimp only [yearOfEra]
  omega

/-- The number of the month, counted from March. -/
def monthFromMarch : Int := (5 * p.ofYear + 2) / 153

/-- The number of the day within its month. -/
def ofMonth : Int := p.ofYear - (153 * p.monthFromMarch + 2) / 5 + 1

theorem month_bounds : 0 ≤ p.monthFromMarch ∧ p.monthFromMarch ≤ 11 := by
  have bounds := p.ofYear_bounds
  unfold monthFromMarch
  omega

theorem ofMonth_pos : 1 ≤ p.ofMonth := by
  have bounds := p.ofYear_bounds
  unfold ofMonth monthFromMarch
  omega

end DayOfEra

/-! ## The date of a day -/

/-- The date of a day, told by its place in its era. -/
theorem dateFromDays_eq {days : Int} {p : DayOfEra} (place : p.number = (days + 719468) % 146097) :
    dateFromDays days =
      let year := p.yearOfEra + (days + 719468) / 146097 * 400
      let month := if p.monthFromMarch < 10 then p.monthFromMarch + 3 else p.monthFromMarch - 9
      (if month ≤ 2 then year + 1 else year, month.toNat, p.ofMonth.toNat) := by
  unfold dateFromDays
  simp only [← place, p.yearOfEra_eq, p.ofYear_eq]
  rfl

theorem exists_place (days : Int) : ∃ p : DayOfEra, p.number = (days + 719468) % 146097 :=
  DayOfEra.exists_number_eq (Int.emod_nonneg _ (by decide)) (Int.emod_lt_of_pos _ (by decide))

/-- The days up to a date lead back to it. -/
theorem daysFromDate_dateFromDays (days : Int) :
    daysFromDate (dateFromDays days).1 (dateFromDays days).2.1 (dateFromDays days).2.2 = days := by
  obtain ⟨p, place⟩ := exists_place days
  obtain ⟨lower, upper⟩ := p.month_bounds
  have positive := p.ofMonth_pos
  have bounds := p.yearOfEra_bounds
  have ofYear := p.ofYear_eq
  have ofMonth : p.ofMonth = p.ofYear - (153 * p.monthFromMarch + 2) / 5 + 1 := rfl
  rw [dateFromDays_eq place]
  unfold daysFromDate
  dsimp only
  -- Where a month starts is no linear function of its number, so the twelve are gone through.
  generalize p.monthFromMarch = month at *
  interval_cases month <;> simp <;> omega

/-- A year of 366 days ends in the February of a leap year. -/
theorem isLeapYear_of_ofYear {p : DayOfEra} (last : p.ofYear = 365) (era : Int) :
    isLeapYear (p.yearOfEra + era * 400 + 1) = true := by
  obtain ⟨year, century⟩ := p.leap last
  have four := p.four_bounds
  have centuryBounds := p.century_bounds
  have yearOfEra : p.yearOfEra = 100 * p.century + 4 * p.four + p.year := rfl
  have fourth : (p.yearOfEra + era * 400 + 1) % 4 = 0 := by omega
  have fourCenturies : (p.yearOfEra + era * 400 + 1) % 100 = 0 →
      (p.yearOfEra + era * 400 + 1) % 400 = 0 := by omega
  unfold isLeapYear
  grind

/-- The date of a day is one of the calendar. -/
theorem dateFromDays_valid (days : Int) :
    1 ≤ (dateFromDays days).2.1 ∧ (dateFromDays days).2.1 ≤ 12 ∧ 1 ≤ (dateFromDays days).2.2 ∧
      (dateFromDays days).2.2 ≤ daysInMonth (dateFromDays days).1 (dateFromDays days).2.1 := by
  obtain ⟨p, place⟩ := exists_place days
  obtain ⟨lower, upper⟩ := p.month_bounds
  have positive := p.ofMonth_pos
  have bounds := p.ofYear_bounds
  have leap (last : p.ofYear = 365) := isLeapYear_of_ofYear last ((days + 719468) / 146097)
  have ofMonth : p.ofMonth = p.ofYear - (153 * p.monthFromMarch + 2) / 5 + 1 := rfl
  have month : p.monthFromMarch = (5 * p.ofYear + 2) / 153 := rfl
  rw [dateFromDays_eq place]
  unfold daysInMonth
  dsimp only
  generalize p.monthFromMarch = m at *
  interval_cases m <;> simp <;> grind

end Instant

end ServiceOperator
