import Mathlib.Tactic.SplitIfs
import ColumnQuery.Time.Calendar

/-!
# Days and dates

Every day count has a date of the calendar that counts the same days. An era consists of four
centuries, a century of twenty-five cycles of four years; the leap day ends a cycle, but no century
other than the last. `EraDay` names a day of an era by these parts, from which the year and the
date can be read without rounding.
-/
namespace ColumnQuery.Date

/-- A day of an era by its century, the cycle of four years, the year of the cycle, and the day of
the year, each counted from zero and years from March. -/
structure EraDay where
  /-- The century of the era. -/
  century : Int
  /-- The cycle of four years in the century. -/
  cycle : Int
  /-- The year of the cycle. -/
  year : Int
  /-- The day of the year. -/
  day : Int
  /-- An era has four centuries. -/
  centuries : 0 ≤ century ∧ century ≤ 3
  /-- A century has twenty-five cycles. -/
  cycles : 0 ≤ cycle ∧ cycle ≤ 24
  /-- A cycle has four years. -/
  years : 0 ≤ year ∧ year ≤ 3
  /-- A year has at most 366 days. -/
  days : 0 ≤ day ∧ day ≤ 365
  /-- The leap day ends a cycle, the last cycle of a century only in the last century. -/
  leap : day = 365 → year = 3 ∧ (cycle = 24 → century = 3)

namespace EraDay

variable (place : EraDay) (era : Int)

/-- The days of the era before the day. -/
def dayOfEra : Int :=
  36524 * place.century + 1461 * place.cycle + 365 * place.year + place.day

/-- The years of the era before the day. -/
def yearOfEra : Int := 100 * place.century + 4 * place.cycle + place.year

/-- Every day of an era has a century, a cycle, a year and a day of the year. -/
theorem exists_dayOfEra {days : Int} (first : 0 ≤ days) (last : days ≤ 146096) :
    ∃ place : EraDay, place.dayOfEra = days := by
  by_cases closing : days = 146096
  · exact ⟨⟨3, 24, 3, 365, by omega, by omega, by omega, by omega, by omega⟩, closing.symm⟩
  · have centuries : 0 ≤ days / 36524 ∧ days / 36524 ≤ 3 := by omega
    have ofCentury : 0 ≤ days % 36524 ∧ days % 36524 ≤ 36523 := by omega
    have whole : 36524 * (days / 36524) + days % 36524 = days := Int.mul_ediv_add_emod _ _
    generalize days / 36524 = century at centuries whole
    generalize days % 36524 = later at ofCentury whole
    have cycles : 0 ≤ later / 1461 ∧ later / 1461 ≤ 24 := by omega
    have ofCycle : 0 ≤ later % 1461 ∧ later % 1461 ≤ 1460 := by omega
    have whole' : 1461 * (later / 1461) + later % 1461 = later := Int.mul_ediv_add_emod _ _
    generalize later / 1461 = cycle at cycles whole'
    generalize later % 1461 = rest at ofCycle whole'
    -- The last day of a cycle is the leap day of its last year.
    by_cases leapDay : rest = 1460
    · refine ⟨⟨century, cycle, 3, 365, centuries, cycles, by omega, by omega, by omega⟩, ?_⟩
      simp only [dayOfEra]
      omega
    · refine ⟨⟨century, cycle, rest / 365, rest % 365, centuries, cycles, by omega, by omega,
        by omega⟩, ?_⟩
      simp only [dayOfEra]
      omega

/-- The leap days that end centuries are found by the length of a century, apart from the one that
ends the era. -/
theorem century_eq {century rest : Int} (centuries : 0 ≤ century ∧ century ≤ 3)
    (inside : 0 ≤ rest ∧ rest ≤ 36524) (closing : rest = 36524 → century = 3) :
    (36524 * century + rest) / 36524 - (36524 * century + rest) / 146096 = century := by
  by_cases last : rest = 36524
  · have third := closing last
    subst last third
    decide
  · have quotient : (36524 * century + rest) / 36524 = century := by omega
    have none : (36524 * century + rest) / 146096 = 0 := by omega
    omega

/-- The year of a day is found by taking its leap days away. -/
theorem yearOfEra_eq :
    (place.dayOfEra - place.dayOfEra / 1460 + place.dayOfEra / 36524 - place.dayOfEra / 146096) /
      365 = place.yearOfEra := by
  obtain ⟨century, cycle, year, day, centuries, cycles, years, days, leap⟩ := place
  have ends : (36524 * century + (1461 * cycle + 365 * year + day)) / 36524 -
      (36524 * century + (1461 * cycle + 365 * year + day)) / 146096 = century :=
    century_eq centuries (by omega) (by omega)
  -- Of the days counted as leap days the last may be one too many, but not in the first day and
  -- always in the leap day of the year.
  have leaps : (36524 * century + 1461 * cycle + 365 * year + day) / 1460 =
      25 * century + cycle + (24 * century + cycle + 365 * year + day) / 1460 := by omega
  have extra : 0 ≤ (24 * century + cycle + 365 * year + day) / 1460 ∧
      (24 * century + cycle + 365 * year + day) / 1460 ≤ 1 ∧
      (day = 0 → (24 * century + cycle + 365 * year + day) / 1460 = 0) ∧
      (day = 365 → (24 * century + cycle + 365 * year + day) / 1460 = 1) := by omega
  rw [← Int.add_assoc, ← Int.add_assoc] at ends
  simp only [dayOfEra, yearOfEra]
  rw [Int.add_sub_assoc, ends, leaps]
  generalize (24 * century + cycle + 365 * year + day) / 1460 = one at extra
  omega

/-- The leap days of the years before. -/
theorem yearOfEra_parts :
    (0 ≤ place.yearOfEra ∧ place.yearOfEra ≤ 399) ∧
      place.yearOfEra / 4 = 25 * place.century + place.cycle ∧
        place.yearOfEra / 100 = place.century := by
  obtain ⟨century, cycle, year, day, centuries, cycles, years, days, leap⟩ := place
  simp only [yearOfEra]
  omega

/-- The day of the year is what the years before leave. -/
theorem dayOfYear_eq :
    place.dayOfEra - (365 * place.yearOfEra + place.yearOfEra / 4 - place.yearOfEra / 100) =
      place.day := by
  obtain ⟨_, quarters, centuries⟩ := place.yearOfEra_parts
  rw [quarters, centuries, dayOfEra, yearOfEra]
  omega

/-! ## Months -/

/-- The months from March before the day. -/
def monthFromMarch : Int := (5 * place.day + 2) / 153

/-- The day of the month. -/
def dayOfMonth : Int := place.day - (153 * place.monthFromMarch + 2) / 5 + 1

/-- The month. -/
def month : Int :=
  if place.monthFromMarch < 10 then place.monthFromMarch + 3 else place.monthFromMarch - 9

/-- The date in an era. -/
def date : Date :=
  let year := place.yearOfEra + era * 400
  ⟨if place.month ≤ 2 then year + 1 else year, place.month.toNat, place.dayOfMonth.toNat⟩

/-- The date of a day count is that of its day in its era. -/
theorem ofDays_eq_date {days : Int} (same : place.dayOfEra = (days + 719468) % 146097) :
    ofDays days = place.date ((days + 719468) / 146097) := by
  simp only [ofDays, ← same, yearOfEra_eq, dayOfYear_eq]
  rfl

/-- A year has twelve months from March. -/
theorem monthFromMarch_bounds : 0 ≤ place.monthFromMarch ∧ place.monthFromMarch ≤ 11 := by
  have days := place.days
  unfold monthFromMarch
  omega

/-- Months from January and from March are nine apart. -/
theorem month_eq :
    1 ≤ place.month ∧ place.month ≤ 12 ∧ (place.month + 9) % 12 = place.monthFromMarch := by
  have bounds := place.monthFromMarch_bounds
  unfold month
  split <;> omega

/-- Days of a month are counted from one. -/
theorem dayOfMonth_pos : 1 ≤ place.dayOfMonth := by
  have days := place.days
  unfold dayOfMonth monthFromMarch
  omega

/-- January and February belong to the year from March before. -/
theorem marchYear_date :
    (if (place.date era).month ≤ 2 then (place.date era).year - 1 else (place.date era).year) =
      place.yearOfEra + era * 400 := by
  have lower := place.month_eq.1
  by_cases early : place.month ≤ 2
  · have first : (place.date era).month ≤ 2 := by
      show place.month.toNat ≤ 2
      omega
    have next : (place.date era).year = place.yearOfEra + era * 400 + 1 := if_pos early
    rw [if_pos first, next]
    omega
  · have later : ¬ (place.date era).month ≤ 2 := by
      show ¬ place.month.toNat ≤ 2
      omega
    rw [if_neg later]
    exact if_neg early

/-- The date counts the days of its eras and of its era. -/
theorem toDays_date :
    (place.date era).toDays = era * 146097 + place.dayOfEra - 719468 := by
  obtain ⟨lower, upper, months⟩ := place.month_eq
  obtain ⟨bounds, quarters, centuries⟩ := place.yearOfEra_parts
  have positive := place.dayOfMonth_pos
  have month : ((place.date era).month : Int) = place.month := Int.toNat_of_nonneg (by omega)
  have day : ((place.date era).day : Int) = place.dayOfMonth := Int.toNat_of_nonneg (by omega)
  have eras : (place.yearOfEra + era * 400) / 400 = era := by omega
  have years : (place.yearOfEra + era * 400) % 400 = place.yearOfEra := by omega
  simp only [toDays, marchYear_date, eras, years, month, day, months, quarters, centuries]
  simp only [dayOfEra, yearOfEra, dayOfMonth]
  omega

/-- The year that ends with a leap day is followed by a leap year. -/
theorem isLeapYear_of_day (last : place.day = 365) :
    isLeapYear (place.yearOfEra + era * 400 + 1) = true := by
  have leap := place.leap last
  have cycles := place.cycles
  unfold isLeapYear yearOfEra
  simp only [Bool.and_eq_true, Bool.or_eq_true, decide_eq_true_eq]
  omega

/-- No month is longer than the calendar has it, in a leap year if the day is a leap day. -/
theorem dayOfMonth_le {year : Int} (leap : place.day = 365 → isLeapYear year = true) :
    place.dayOfMonth ≤ daysInMonth year place.month.toNat := by
  have days := place.days
  have bounds := place.monthFromMarch_bounds
  have march : place.monthFromMarch = (5 * place.day + 2) / 153 := rfl
  unfold daysInMonth dayOfMonth month
  simp only [Bool.or_eq_true, decide_eq_true_eq]
  split_ifs with early february leapYear short
  · omega
  · omega
  · omega
  · omega
  · omega
  · have plain : place.day ≠ 365 := fun last => absurd (leap last) (by assumption)
    omega
  · omega
  · omega

/-- The calendar has the date. -/
theorem isValid_date : (place.date era).isValid = true := by
  obtain ⟨lower, upper, _⟩ := place.month_eq
  have positive := place.dayOfMonth_pos
  have leap : place.day = 365 → isLeapYear (place.date era).year = true := by
    intro last
    have early : place.month ≤ 2 := by
      simp only [month, monthFromMarch, last]
      decide
    have next : (place.date era).year = place.yearOfEra + era * 400 + 1 := if_pos early
    rw [next]
    exact place.isLeapYear_of_day era last
  have longest := place.dayOfMonth_le leap
  have inside : place.dayOfMonth.toNat ≤ daysInMonth (place.date era).year place.month.toNat := by
    omega
  unfold isValid
  simp only [Bool.and_eq_true, decide_eq_true_eq]
  refine ⟨⟨⟨?_, ?_⟩, ?_⟩, inside⟩
  · show 1 ≤ place.month.toNat
    omega
  · show place.month.toNat ≤ 12
    omega
  · show 1 ≤ place.dayOfMonth.toNat
    omega

end EraDay

/-- **Every day has its date.** The date of a day count is one that the calendar has, and it counts
the same days. -/
theorem ofDays_spec (days : Int) : (ofDays days).isValid = true ∧ (ofDays days).toDays = days := by
  have first : 0 ≤ (days + 719468) % 146097 := by omega
  have last : (days + 719468) % 146097 ≤ 146096 := by omega
  obtain ⟨place, same⟩ := EraDay.exists_dayOfEra first last
  rw [place.ofDays_eq_date same, place.toDays_date, same]
  refine ⟨place.isValid_date _, ?_⟩
  omega

end ColumnQuery.Date
