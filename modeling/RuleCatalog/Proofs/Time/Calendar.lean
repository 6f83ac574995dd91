import Mathlib.Tactic.ByContra
import RuleCatalog.Timestamp

/-! # The calendar and back

The date of a day is a date of the calendar, and the number of the day on that date is the number of
the day one began with.
-/

namespace RuleCatalog.Timestamp

/-- A date that the calendar has. -/
structure IsDate (year : Int) (month day : Nat) : Prop where
  month_pos : 1 ≤ month
  month_le : month ≤ 12
  day_pos : 1 ≤ day
  day_le : day ≤ daysInMonth year month

/-- A day in an era of 400 years: the year and the day within the year, both from nothing. -/
structure InEra (dayOfEra yearOfEra dayOfYear : Int) : Prop where
  year_nonneg : 0 ≤ yearOfEra
  year_lt : yearOfEra < 400
  day_nonneg : 0 ≤ dayOfYear
  /-- The last day of a year is the leap day, if there is one. -/
  day_le : dayOfYear ≤ 364 ∨ (dayOfYear = 365 ∧ yearOfEra % 4 = 3 ∧
    (yearOfEra % 100 ≠ 99 ∨ yearOfEra = 399))
  sum : dayOfEra = yearOfEra * 365 + yearOfEra / 4 - yearOfEra / 100 + dayOfYear

/-- Every day of an era is in one of its centuries, in one of four years in a row, in one of
these. -/
theorem exists_inEra {dayOfEra : Int} (nonneg : 0 ≤ dayOfEra) (below : dayOfEra < 146097) :
    ∃ century four year day : Int, 0 ≤ century ∧ century ≤ 3 ∧ 0 ≤ four ∧ four ≤ 24 ∧
      0 ≤ year ∧ year ≤ 3 ∧ 0 ≤ day ∧
      (day ≤ 364 ∨ day = 365 ∧ year = 3 ∧ (four ≠ 24 ∨ century = 3)) ∧
      dayOfEra = 36524 * century + 1461 * four + 365 * year + day := by
  have fours : ∀ inCentury : Int, 0 ≤ inCentury → inCentury ≤ 36524 →
      ∃ four year day : Int, 0 ≤ four ∧ four ≤ 24 ∧ 0 ≤ year ∧ year ≤ 3 ∧ 0 ≤ day ∧
        (day ≤ 364 ∨ day = 365 ∧ year = 3 ∧ (four ≠ 24 ∨ inCentury = 36524)) ∧
        inCentury = 1461 * four + 365 * year + day := by
    intro inCentury nonneg below
    refine ⟨inCentury / 1461, min 3 (inCentury % 1461 / 365),
      inCentury % 1461 - 365 * min 3 (inCentury % 1461 / 365), ?_⟩
    omega
  obtain ⟨four, year, day, inside⟩ := fours (dayOfEra - 36524 * min 3 (dayOfEra / 36524))
    (by omega) (by omega)
  refine ⟨min 3 (dayOfEra / 36524), four, year, day, ?_⟩
  omega

theorem inEra_of_dayOfEra {dayOfEra : Int} (nonneg : 0 ≤ dayOfEra) (below : dayOfEra < 146097) :
    let yearOfEra := (dayOfEra - dayOfEra / 1460 + dayOfEra / 36524 - dayOfEra / 146096) / 365
    InEra dayOfEra yearOfEra
      (dayOfEra - (365 * yearOfEra + yearOfEra / 4 - yearOfEra / 100)) := by
  intro yearOfEra
  obtain ⟨century, four, year, day, within⟩ := exists_inEra nonneg below
  have centuries : dayOfEra / 36524 = century ∨
      dayOfEra / 36524 = century + 1 ∧ dayOfEra = 146096 := by omega
  have quarters : dayOfEra / 1460 = 25 * century + four ∧
        24 * century + four + 365 * year + day < 1460 ∨
      dayOfEra / 1460 = 25 * century + four + 1 ∧
        1460 ≤ 24 * century + four + 365 * year + day := by omega
  have whole : dayOfEra / 146096 = 0 ∧ dayOfEra < 146096 ∨
    dayOfEra / 146096 = 1 ∧ dayOfEra = 146096 := by omega
  have known : yearOfEra = 100 * century + 4 * four + year := by
    change (dayOfEra - dayOfEra / 1460 + dayOfEra / 36524 - dayOfEra / 146096) / 365 = _
    generalize dayOfEra / 36524 = c at *
    generalize dayOfEra / 1460 = q at *
    generalize dayOfEra / 146096 = w at *
    omega
  clear_value yearOfEra
  subst known
  have byFour : (100 * century + 4 * four + year) / 4 = 25 * century + four := by omega
  have byHundred : (100 * century + 4 * four + year) / 100 = century := by omega
  refine ⟨by omega, by omega, by omega, by omega, by omega⟩

/-- Months from March on, with the first day of each in its year and how many days it has. -/
structure InMonth (dayOfYear monthFromMarch : Int) (month day : Nat) : Prop where
  shifted : month = monthFromMarch + 3 ∧ 3 ≤ month ∨ month = monthFromMarch - 9 ∧ month ≤ 2
  month_eq : monthFromMarch = (5 * dayOfYear + 2) / 153
  month_pos : 1 ≤ month
  month_le : month ≤ 12
  day_eq : day = dayOfYear - (153 * monthFromMarch + 2) / 5 + 1
  day_pos : 1 ≤ day
  day_le : ∀ year, day ≤ daysInMonth year month ∨ month = 2 ∧ day = 29 ∧ dayOfYear = 365

theorem inMonth_of_dayOfYear {dayOfYear : Int} (nonneg : 0 ≤ dayOfYear) (below : dayOfYear ≤ 365) :
    let monthFromMarch := (5 * dayOfYear + 2) / 153
    InMonth dayOfYear monthFromMarch
      (if monthFromMarch < 10 then monthFromMarch + 3 else monthFromMarch - 9).toNat
      (dayOfYear - (153 * monthFromMarch + 2) / 5 + 1).toNat := by
  intro monthFromMarch
  have months : monthFromMarch = 0 ∨ monthFromMarch = 1 ∨ monthFromMarch = 2 ∨ monthFromMarch = 3 ∨
      monthFromMarch = 4 ∨ monthFromMarch = 5 ∨ monthFromMarch = 6 ∨ monthFromMarch = 7 ∨
      monthFromMarch = 8 ∨ monthFromMarch = 9 ∨ monthFromMarch = 10 ∨ monthFromMarch = 11 := by
    omega
  have quotient : monthFromMarch = (5 * dayOfYear + 2) / 153 := rfl
  clear_value monthFromMarch
  refine ⟨by omega, quotient, by omega, by omega, by omega, by omega, fun year => ?_⟩
  rcases months with rfl | rfl | rfl | rfl | rfl | rfl | rfl | rfl | rfl | rfl | rfl | rfl <;>
    cases leap : isLeapYear year <;> simp [daysInMonth, leap] <;> omega

/-- How the parts of a date come from the number of a day. -/
theorem dateOfDay_parts {n year : Int} {month day : Nat} (date : dateOfDay n = (year, month, day)) :
    ∃ era dayOfEra yearOfEra dayOfYear monthFromMarch : Int,
      n + 719468 = era * 146097 + dayOfEra ∧ InEra dayOfEra yearOfEra dayOfYear ∧
      InMonth dayOfYear monthFromMarch month day ∧
      year = yearOfEra + era * 400 + (if month ≤ 2 then 1 else 0) := by
  have nonneg : 0 ≤ (n + 719468) % 146097 := by omega
  have below : (n + 719468) % 146097 < 146097 := by omega
  have inEra := inEra_of_dayOfEra nonneg below
  have inMonth := inMonth_of_dayOfYear inEra.day_nonneg (by have := inEra.day_le; omega)
  simp only [dateOfDay, Prod.mk.injEq] at date
  obtain ⟨rfl, rfl, rfl⟩ := date
  exact ⟨(n + 719468) / 146097, (n + 719468) % 146097, _, _, _, by omega, inEra, inMonth, rfl⟩

theorem isLeapYear_iff {year : Int} :
    isLeapYear year = true ↔ year % 4 = 0 ∧ (year % 100 ≠ 0 ∨ year % 400 = 0) := by
  simp [isLeapYear]

/-- The date of a day is one of the calendar. -/
theorem isDate_dateOfDay {n year : Int} {month day : Nat}
    (date : dateOfDay n = (year, month, day)) : IsDate year month day := by
  obtain ⟨era, dayOfEra, yearOfEra, dayOfYear, monthFromMarch, -, inEra, inMonth, rfl⟩ :=
    dateOfDay_parts date
  refine ⟨inMonth.month_pos, inMonth.month_le, inMonth.day_pos, ?_⟩
  rcases inMonth.day_le (yearOfEra + era * 400 + (if month ≤ 2 then 1 else 0)) with
    regular | ⟨rfl, rfl, last⟩
  · exact regular
  · -- the last day of a year that starts in March is there in leap years only
    have leap : isLeapYear (yearOfEra + era * 400 + 1) = true := by
      have := inEra.day_le
      have := inEra.year_nonneg
      have := inEra.year_lt
      rw [isLeapYear_iff]
      omega
    simp [daysInMonth, leap]

/-- The number of the day on the date of a day is that of the day. -/
theorem dayNumber_dateOfDay {n year : Int} {month day : Nat}
    (date : dateOfDay n = (year, month, day)) : dayNumber year month day = n := by
  obtain ⟨era, dayOfEra, yearOfEra, dayOfYear, monthFromMarch, number, inEra, inMonth, rfl⟩ :=
    dateOfDay_parts date
  have yearBack : (if month ≤ 2 then yearOfEra + era * 400 + (if month ≤ 2 then 1 else 0) - 1
      else yearOfEra + era * 400 + (if month ≤ 2 then 1 else 0)) = yearOfEra + era * 400 := by
    split <;> omega
  have monthBack :
      (if month ≤ 2 then (month : Int) + 9 else (month : Int) - 3) = monthFromMarch := by
    have := inMonth.shifted
    split <;> omega
  have eraBack : (yearOfEra + era * 400) / 400 = era := by
    have := inEra.year_nonneg
    have := inEra.year_lt
    omega
  have yearOfEraBack : (yearOfEra + era * 400) % 400 = yearOfEra := by
    have := inEra.year_nonneg
    have := inEra.year_lt
    omega
  simp only [dayNumber, yearBack, monthBack, eraBack, yearOfEraBack]
  have := inEra.sum
  have := inMonth.day_eq
  omega

/-- Years that can be represented. -/
theorem year_dateOfDay {n year : Int} {month day : Nat}
    (date : dateOfDay n = (year, month, day)) (first : dayNumber firstYear 1 1 ≤ n)
    (last : n < dayNumber (lastYear + 1) 1 1) : firstYear ≤ year ∧ year ≤ lastYear := by
  obtain ⟨era, dayOfEra, yearOfEra, dayOfYear, monthFromMarch, number, inEra, inMonth, rfl⟩ :=
    dateOfDay_parts date
  have firstDay : dayNumber firstYear 1 1 = -96465292 := by decide
  have lastDay : dayNumber (lastYear + 1) 1 1 = 95026237 := by decide
  have := inEra.year_nonneg
  have := inEra.year_lt
  have := inEra.day_nonneg
  have := inEra.day_le
  have := inEra.sum
  have := inMonth.month_eq
  have := inMonth.shifted
  have := inMonth.month_pos
  have := inMonth.month_le
  -- the eras of the first and the last year are not whole: they begin or end within them
  have eras : -656 ≤ era ∧ era ≤ 655 := by omega
  simp only [firstYear, lastYear]
  constructor
  · by_contra before
    obtain rfl : era = -656 := by split at before <;> omega
    obtain rfl : yearOfEra = 256 := by split at before <;> omega
    split at before <;> omega
  · by_contra after
    obtain rfl : era = 655 := by split at after <;> omega
    obtain rfl : yearOfEra = 142 := by split at after <;> omega
    split at after <;> omega

end RuleCatalog.Timestamp
