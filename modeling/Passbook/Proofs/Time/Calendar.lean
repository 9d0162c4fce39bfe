import Mathlib.Tactic.IntervalCases
import Passbook.Time.Timestamp

/-!
Day numbers and dates. Every day number belongs to exactly one valid date, which gives the number
back. A day of an era of 400 years is told apart by its century, the group of four years within it,
the year within the group, and the day within the year.
-/

set_option autoImplicit false

namespace Passbook.Time

variable {day number : Int}

/-!
## Days of an era
-/

def yearOfEra (day : Int) : Int := (day - day / 1460 + day / 36524 - day / 146096) / 365

def firstDay (year : Int) : Int := year * 365 + year / 4 - year / 100

/-- How a day of an era is made up. -/
structure Within (day century group year rest : Int) : Prop where
  whole : day = 36524 * century + 1461 * group + 365 * year + rest
  centuries : 0 ≤ century ∧ century ≤ 3
  groups : 0 ≤ group ∧ group ≤ 24
  years : 0 ≤ year ∧ year ≤ 3
  days : 0 ≤ rest ∧ rest ≤ 364 ∨ rest = 365 ∧ year = 3 ∧ (group ≤ 23 ∨ century = 3)

theorem exists_within (nonneg : 0 ≤ day) (inEra : day < 146097) :
    ∃ century group year rest, Within day century group year rest := by
  -- The last day of an era and of a group is one more than the divisor, so the quotients are
  -- capped.
  obtain ⟨century, remainder, split, centuryBounds, remainderBounds⟩ : ∃ century remainder,
    day = 36524 * century + remainder ∧
      (0 ≤ century ∧ century ≤ 3) ∧ 0 ≤ remainder ∧
        (remainder ≤ 36523 ∨ remainder = 36524 ∧ century = 3) := by
    by_cases last : day = 146096
    · exact ⟨3, 36524, by omega⟩
    · exact ⟨day / 36524, day % 36524, by omega⟩
  obtain ⟨year, rest, yearSplit, yearBounds, restBounds⟩ : ∃ year rest,
    remainder % 1461 = 365 * year + rest ∧
      (0 ≤ year ∧ year ≤ 3) ∧ 0 ≤ rest ∧ (rest ≤ 364 ∨ rest = 365 ∧ year = 3) := by
    by_cases last : remainder % 1461 = 1460
    · exact ⟨3, 365, by omega⟩
    · exact ⟨remainder % 1461 / 365, remainder % 1461 % 365, by omega⟩
  exact ⟨century, remainder / 1461, year, rest, by omega, centuryBounds, by omega,
    yearBounds, by omega⟩

variable {century group year rest : Int}

theorem Within.yearOfEra_eq (within : Within day century group year rest) :
    yearOfEra day = 100 * century + 4 * group + year := by
  obtain ⟨whole, centuryBounds, groupBounds, yearBounds, restBounds⟩ := within
  have last : day / 36524 - day / 146096 = century := by
    by_cases isLast : day = 146096
    · omega
    · have short : 0 ≤ 1461 * group + 365 * year + rest ∧
          1461 * group + 365 * year + rest ≤ 36523 := by omega
      have quotient : day / 36524 = century := by omega
      have none : day / 146096 = 0 := by omega
      omega
  have groups : day / 1460 = 25 * century + group ∨ day / 1460 = 25 * century + group + 1 := by
    omega
  rw [yearOfEra]
  omega

theorem Within.firstDay_eq (within : Within day century group year rest) :
    firstDay (100 * century + 4 * group + year) = day - rest := by
  obtain ⟨whole, centuryBounds, groupBounds, yearBounds, -⟩ := within
  rw [firstDay]
  omega

/-!
## Months
-/

def monthOf (rest : Int) : Int := (5 * rest + 2) / 153

/-- The day of the month, counted from one. -/
def dayOf (rest : Int) : Int := rest - (153 * monthOf rest + 2) / 5 + 1

theorem monthOf_bounds (nonneg : 0 ≤ rest) (inYear : rest ≤ 365) :
    0 ≤ monthOf rest ∧ monthOf rest ≤ 11 := by
  rw [monthOf]
  omega

theorem dayOf_bounds (rest : Int) : 1 ≤ dayOf rest ∧ dayOf rest ≤ 31 := by
  rw [dayOf, monthOf]
  omega

def monthNumber (fromMarch : Int) : Int := if fromMarch < 10 then fromMarch + 3 else fromMarch - 9

theorem ofDayNumber_eq (number : Int) :
    ∃ era year rest, number = era * 146097 + (firstDay year + rest) - 719468 ∧ 0 ≤ year ∧
      year ≤ 399 ∧ 0 ≤ rest ∧
      (rest ≤ 364 ∨ rest = 365 ∧ isLeapYear (year + era * 400 + 1)) ∧
      Date.ofDayNumber number = ⟨if monthNumber (monthOf rest) ≤ 2 then year + era * 400 + 1 else
        year + era * 400, (monthNumber (monthOf rest)).toNat, (dayOf rest).toNat⟩ := by
  obtain ⟨century, group, year, rest, within⟩ :=
    exists_within (by omega : 0 ≤ (number + 719468) % 146097) (by omega)
  have first := within.firstDay_eq
  have counted := within.yearOfEra_eq
  obtain ⟨whole, centuryBounds, groupBounds, yearBounds, restBounds⟩ := within
  refine ⟨(number + 719468) / 146097, 100 * century + 4 * group + year, rest, by omega, by omega,
    by omega, by omega, ?_, ?_⟩
  · rcases restBounds with short | ⟨rfl, rfl, leap⟩
    · exact .inl short.2
    · refine .inr ⟨rfl, ?_⟩
      simp only [isLeapYear, Bool.and_eq_true, Bool.or_eq_true, beq_iff_eq, bne_iff_ne]
      omega
  · have remainder : (number + 719468) % 146097 -
        (365 * (100 * century + 4 * group + year) + (100 * century + 4 * group + year) / 4 -
          (100 * century + 4 * group + year) / 100) = rest := by
      rw [firstDay] at first
      omega
    rw [yearOfEra] at counted
    simp only [Date.ofDayNumber, counted, remainder, monthNumber, dayOf, monthOf]
    rfl

namespace Date

theorem toDayNumber_fromMarch (era : Int) {year : Int} (nonneg : 0 ≤ year) (inEra : year ≤ 399)
    {month : Int} (monthNonneg : 0 ≤ month) (inYear : month ≤ 11) {day : Int} (positive : 1 ≤ day) :
    toDayNumber ⟨if monthNumber month ≤ 2 then year + era * 400 + 1 else
      year + era * 400, (monthNumber month).toNat, day.toNat⟩ =
      era * 146097 + (firstDay year + ((153 * month + 2) / 5 + day - 1)) - 719468 := by
  have fromMarch : (((monthNumber month).toNat + 9) % 12 : Nat) = month := by
    rw [monthNumber]
    omega
  have same : (if (monthNumber month).toNat ≤ 2 then
      (if monthNumber month ≤ 2 then year + era * 400 + 1 else year + era * 400) - 1 else
      if monthNumber month ≤ 2 then year + era * 400 + 1 else
      year + era * 400) = year + era * 400 := by
    by_cases early : monthNumber month ≤ 2
    · rw [if_pos (by omega), if_pos early, Int.add_sub_cancel]
    · rw [if_neg (by omega), if_neg early]
  have quotient : (year + era * 400) / 400 = era := by omega
  have remainder : (year + era * 400) % 400 = year := by omega
  simp only [toDayNumber, same, fromMarch, quotient, remainder, firstDay]
  omega

theorem toDayNumber_ofDayNumber (number : Int) : (ofDayNumber number).toDayNumber = number := by
  obtain ⟨era, year, rest, whole, nonneg, inEra, restNonneg, inYear, date⟩ := ofDayNumber_eq number
  have months := monthOf_bounds restNonneg (by omega)
  rw [date, toDayNumber_fromMarch era nonneg inEra months.1 months.2 (dayOf_bounds rest).1, dayOf]
  omega

/-- No day is beyond the end of its month; the last month from March has a leap day if the next year
is a leap year. -/
theorem dayOf_le {rest year : Int} (nonneg : 0 ≤ rest)
    (inYear : rest ≤ 364 ∨ rest = 365 ∧ isLeapYear (year + 1)) :
    dayOf rest ≤ daysInMonth (if monthNumber (monthOf rest) ≤ 2 then year + 1 else year)
      (monthNumber (monthOf rest)).toNat := by
  obtain ⟨lower, upper⟩ := monthOf_bounds nonneg (by omega)
  generalize isMonth : monthOf rest = month at *
  have within : 153 * month ≤ 5 * rest + 2 ∧ 5 * rest + 2 < 153 * month + 153 := by
    rw [monthOf] at isMonth
    omega
  rw [dayOf, isMonth]
  by_cases isLast : month = 11
  · subst isLast
    rcases inYear with short | ⟨rfl, leap⟩
    · have least : (28 : Int) ≤ daysInMonth (year + 1) 2 := by
        rw [daysInMonth]
        split <;> decide
      simp only [monthNumber]
      exact le_trans (by omega) least
    · simp [monthNumber, daysInMonth, leap]
  · interval_cases month
    all_goals simp [monthNumber, daysInMonth]
    all_goals omega

theorem isValid_ofDayNumber (number : Int) : (ofDayNumber number).isValid = true := by
  obtain ⟨era, year, rest, -, -, -, restNonneg, inYear, date⟩ := ofDayNumber_eq number
  have days := dayOf_bounds rest
  have inMonth := dayOf_le restNonneg inYear
  simp only [date, isValid, Bool.and_eq_true, decide_eq_true_eq]
  omega

theorem firstDay_le {era other year later : Int} (nonneg : 0 ≤ year) (inEra : year ≤ 399)
    (laterNonneg : 0 ≤ later) (laterInEra : later ≤ 399)
    (before : year + era * 400 < later + other * 400) :
    era * 146097 + firstDay year + 365 ≤ other * 146097 + firstDay later := by
  rw [firstDay, firstDay]
  omega

/-- The first day of a year comes after exactly the days of earlier years. -/
theorem year_lt_iff (number year : Int) :
    (ofDayNumber number).year < year ↔ number < toDayNumber ⟨year, 1, 1⟩ := by
  obtain ⟨era, own, rest, whole, nonneg, inEra, restNonneg, inYear, date⟩ := ofDayNumber_eq number
  have newYear : toDayNumber ⟨year, 1, 1⟩ = (year - 1) / 400 * 146097 +
      (firstDay ((year - 1) % 400) + 306) - 719468 := by
    have fromMarch :=
      toDayNumber_fromMarch ((year - 1) / 400) (by omega : 0 ≤ (year - 1) % 400) (by omega)
        (by decide : (0 : Int) ≤ 10) (by decide) (by decide : (1 : Int) ≤ 1)
    have same : (year - 1) % 400 + (year - 1) / 400 * 400 + 1 = year := by omega
    simpa [monthNumber, same] using fromMarch
  -- Years that begin in March are in the order of their first days.
  have order : own + era * 400 < year - 1 ∧
        era * 146097 + firstDay own + 365 ≤ (year - 1) / 400 * 146097 +
          firstDay ((year - 1) % 400) ∨
      own + era * 400 = year - 1 ∧ era * 146097 + firstDay own = (year - 1) / 400 * 146097 +
        firstDay ((year - 1) % 400) ∨
      year - 1 < own + era * 400 ∧
        (year - 1) / 400 * 146097 + firstDay ((year - 1) % 400) + 365 ≤
          era * 146097 + firstDay own := by
    rcases lt_trichotomy (own + era * 400) (year - 1) with before | equal | after
    · exact .inl ⟨before, firstDay_le nonneg inEra (by omega) (by omega) (by omega)⟩
    · have sameEra : (year - 1) / 400 = era := by omega
      have sameYear : (year - 1) % 400 = own := by omega
      exact .inr (.inl ⟨equal, by rw [sameEra, sameYear]⟩)
    · exact .inr (.inr ⟨after, firstDay_le (by omega) (by omega) nonneg inEra (by omega)⟩)
  have months : monthNumber (monthOf rest) ≤ 2 ↔ 306 ≤ rest := by
    rw [monthNumber, monthOf]
    omega
  rw [newYear, date]
  dsimp only
  split <;> omega

end Date

end Passbook.Time
