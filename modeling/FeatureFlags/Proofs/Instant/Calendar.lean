import FeatureFlags.Instant.Basic
import Mathlib.Data.Int.Order.Basic

/-!
**The calendar counts every day once.**

Years are counted from March, in eras of four hundred years. The day of an era tells the year in it
and the day in the year; the last day of a year that has 366 of them is a leap day. So a day that is
counted back from its date is the day itself, and the date of a day on the calendar is a valid one.

* `dateOfDays_eq`: the date of a day, by its year and its day in the year.
* `daysFromDate_dateOfDays`: the days of the date of a day.
* `isValid_dateOfDays`: the date of a day on the calendar is valid.
-/

namespace FeatureFlags

/-! ### The days of a year -/

/-- The day of a year that begins in March. -/
def dateInYear (year : Int) (dayOfYear : Nat) : Date :=
  let monthFromMarch := (5 * dayOfYear + 2) / 153
  let month := if monthFromMarch < 10 then monthFromMarch + 3 else monthFromMarch - 9
  ⟨if month ≤ 2 then year + 1 else year, month, dayOfYear - (153 * monthFromMarch + 2) / 5 + 1⟩

/-- The days from the first of March of the year zero to the beginning of a year. -/
def yearStart (year : Int) : Int := 365 * year + year / 4 - year / 100 + year / 400

variable {year : Int} {dayOfYear : Nat}

/-- A date counts its days from the beginning of its year. -/
theorem daysSinceMarchZero_dateInYear (inside : dayOfYear ≤ 365) :
    daysSinceMarchZero (dateInYear year dayOfYear) = yearStart year + dayOfYear := by
  have fdiv (divisor : Int) (positive : 0 ≤ divisor) (number : Int) :
      number.fdiv divisor = number / divisor := Int.fdiv_eq_ediv_of_nonneg number positive
  unfold daysSinceMarchZero dateInYear yearStart
  simp only [fdiv 4 (by decide), fdiv 100 (by decide), fdiv 400 (by decide)]
  generalize month : (5 * dayOfYear + 2) / 153 = monthFromMarch
  by_cases early : monthFromMarch < 10
  · have spring : ¬monthFromMarch + 3 ≤ 2 := by omega
    have same : (monthFromMarch + 3 + 9) % 12 = monthFromMarch := by omega
    simp only [early, if_true, spring, if_false, same]
    omega
  · have winter : monthFromMarch - 9 ≤ 2 := by omega
    have same : (monthFromMarch - 9 + 9) % 12 = monthFromMarch := by omega
    simp only [early, if_false, winter, if_true, same]
    omega

theorem isLeapYear_iff : isLeapYear year ↔ year % 4 = 0 ∧ (year % 100 ≠ 0 ∨ year % 400 = 0) := by
  simp [isLeapYear]

theorem Date.isValid_iff {date : Date} :
    date.isValid ↔ (firstYear ≤ date.year ∧ date.year ≤ lastYear) ∧
      (1 ≤ date.month ∧ date.month ≤ 12) ∧
        1 ≤ date.day ∧ date.day ≤ daysInMonth date.year date.month := by
  rw [isValid, Bool.and_eq_true, Bool.and_eq_true, decide_eq_true_iff, decide_eq_true_iff,
    decide_eq_true_iff, and_assoc]

/-- A day of a year has a valid date, if the year is on the calendar and has that day. -/
theorem isValid_dateInYear (inside : dayOfYear ≤ 365)
    (leap : dayOfYear = 365 → isLeapYear (year + 1))
    (first : firstYear ≤ year ∨ firstYear = year + 1 ∧ 306 ≤ dayOfYear)
    (last : year < lastYear ∨ year = lastYear ∧ dayOfYear < 306) :
    (dateInYear year dayOfYear).isValid := by
  have range : (5 * dayOfYear + 2) / 153 ≤ 11 := by omega
  rw [Date.isValid_iff]
  unfold dateInYear daysInMonth
  simp only
  generalize month : (5 * dayOfYear + 2) / 153 = monthFromMarch at range
  by_cases early : monthFromMarch < 10
  · have spring : ¬monthFromMarch + 3 ≤ 2 := by omega
    simp only [early, if_true, spring, if_false]
    refine ⟨⟨by omega, by omega⟩, by omega, ?_⟩
    split
    · omega
    · split <;> omega
  · have winter : monthFromMarch - 9 ≤ 2 := by omega
    simp only [early, if_false, winter, if_true]
    refine ⟨⟨by omega, by omega⟩, by omega, ?_⟩
    split
    · by_cases day : dayOfYear = 365
      · simp only [leap day, if_true]
        omega
      · split <;> omega
    · split <;> omega

/-! ### The days of an era -/

/-- The year of a day of an era. -/
def yearOfEra (dayOfEra : Nat) : Nat :=
  (dayOfEra - dayOfEra / 1460 + dayOfEra / 36524 - dayOfEra / 146096) / 365

/-- The days of an era before a year of it. -/
def daysBefore (yearOfEra : Nat) : Nat := 365 * yearOfEra + yearOfEra / 4 - yearOfEra / 100

/-- What holds of the year that is found for a day of an era. -/
structure YearFits (dayOfEra year : Nat) : Prop where
  inside : year < 400
  before : daysBefore year ≤ dayOfEra
  within : dayOfEra - daysBefore year ≤ 365
  leap : dayOfEra - daysBefore year = 365 →
    (year + 1) % 4 = 0 ∧ ((year + 1) % 100 ≠ 0 ∨ (year + 1) % 400 = 0)

/-- A day of a century of an era. The last day of the era is not among them. -/
theorem yearFits_of_century {century dayOfEra : Nat} (inside : century < 4)
    (low : 36524 * century ≤ dayOfEra) (high : dayOfEra < 36524 * century + 36524) :
    YearFits dayOfEra ((dayOfEra - dayOfEra / 1460 + century) / 365) := by
  generalize found : (dayOfEra - dayOfEra / 1460 + century) / 365 = year
  have least : 365 * year ≤ dayOfEra - dayOfEra / 1460 + century := by omega
  have most : dayOfEra - dayOfEra / 1460 + century < 365 * year + 365 := by omega
  clear found
  have bounds : year / 100 = century ∧ 365 * year + year / 4 ≤ dayOfEra + century ∧
      dayOfEra + century < 365 * (year + 1) + (year + 1) / 4 := by
    obtain rfl | rfl | rfl | rfl : century = 0 ∨ century = 1 ∨ century = 2 ∨ century = 3 := by omega
    all_goals exact ⟨by omega, by omega, by omega⟩
  obtain ⟨same, before, after⟩ := bounds
  clear least most
  constructor
  · omega
  · unfold daysBefore
    omega
  · unfold daysBefore
    omega
  · unfold daysBefore
    omega

theorem yearFits_yearOfEra {dayOfEra : Nat} (inside : dayOfEra < 146097) :
    YearFits dayOfEra (yearOfEra dayOfEra) := by
  by_cases last : dayOfEra = 146096
  · subst last
    exact ⟨by decide, by decide, by decide, by decide⟩
  · have spare : dayOfEra / 146096 = 0 := Nat.div_eq_of_lt (by omega)
    have fits : YearFits dayOfEra ((dayOfEra - dayOfEra / 1460 + dayOfEra / 36524) / 365) :=
      yearFits_of_century (by omega) (by omega) (by omega)
    rwa [yearOfEra, spare, Nat.sub_zero]

/-! ### Days and dates -/

/-- The date of a day, by its era, the year in the era and the day in the year. -/
theorem dateOfDays_eq (days : Int) :
    ∃ (era : Int) (year dayOfYear : Nat), YearFits (daysBefore year + dayOfYear) year ∧
      days + 719468 = era * 146097 + (daysBefore year + dayOfYear : Nat) ∧
        dateOfDays days = dateInYear (year + era * 400) dayOfYear := by
  have euclid : Int.fdiv (days + 719468) 146097 = (days + 719468) / 146097 :=
    Int.fdiv_eq_ediv_of_nonneg _ (by decide)
  generalize divided : Int.fdiv (days + 719468) 146097 = era at euclid
  generalize rest : (days + 719468 - era * 146097).toNat = dayOfEra
  have whole : days + 719468 = era * 146097 + dayOfEra := by omega
  have inside : dayOfEra < 146097 := by omega
  have fits := yearFits_yearOfEra inside
  have sum : daysBefore (yearOfEra dayOfEra) + (dayOfEra - daysBefore (yearOfEra dayOfEra)) =
      dayOfEra := Nat.add_sub_cancel' fits.before
  refine ⟨era, yearOfEra dayOfEra, dayOfEra - daysBefore (yearOfEra dayOfEra), ?_, ?_, ?_⟩
  · rwa [sum]
  · rw [sum]
    exact whole
  · unfold dateOfDays
    simp only [divided, rest]
    rfl

/-- **The days of the date of a day are the day.** -/
theorem daysFromDate_dateOfDays (days : Int) : daysFromDate (dateOfDays days) = days := by
  obtain ⟨era, year, dayOfYear, fits, same, date⟩ := dateOfDays_eq days
  have inside := fits.within
  rw [Nat.add_sub_cancel_left] at inside
  rw [date, daysFromDate, daysSinceMarchZero_dateInYear inside, yearStart]
  have year_inside := fits.inside
  unfold daysBefore at same
  omega

/-- **The date of a day of the calendar is valid.** -/
theorem isValid_dateOfDays {days : Int} (first : daysFromDate ⟨firstYear, 1, 1⟩ ≤ days)
    (last : days ≤ daysFromDate ⟨lastYear, 12, 31⟩) : (dateOfDays days).isValid := by
  obtain ⟨era, year, dayOfYear, ⟨year_inside, _, inside, leap⟩, same, date⟩ := dateOfDays_eq days
  have first_day : daysFromDate ⟨firstYear, 1, 1⟩ = -96465292 := by decide
  have last_day : daysFromDate ⟨lastYear, 12, 31⟩ = 95026236 := by decide
  rw [first_day] at first
  rw [last_day] at last
  rw [Nat.add_sub_cancel_left] at inside leap
  rw [date]
  refine isValid_dateInYear inside (fun day => isLeapYear_iff.mpr ?_) ?_ ?_
  · have divided := leap day
    omega
  · unfold daysBefore at same
    unfold firstYear
    obtain earlier | rfl | later : era ≤ -657 ∨ era = -656 ∨ -655 ≤ era := by omega
    all_goals omega
  · unfold daysBefore at same
    unfold lastYear
    obtain earlier | rfl | later : era ≤ 654 ∨ era = 655 ∨ 656 ≤ era := by omega
    all_goals omega

end FeatureFlags
