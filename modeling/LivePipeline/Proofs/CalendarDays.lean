import Mathlib.Tactic.IntervalCases
import LivePipeline.Calendar

/-! Days and dates. Every count of days is that of a valid date, in the range of years, and the date tells the count. Years
are counted from March in eras of four hundred, and a day stands in its era by the century, the four years in that, and
the year in those. -/

namespace LivePipeline.CivilDate

/-- Where a day of an era stands. Only the last of four years has a day more, except at the end of the first three
centuries. -/
structure EraPlace (dayOfEra century cycle year day : Int) : Prop where
  centuries : 0 ≤ century ∧ century ≤ 3
  cycles : 0 ≤ cycle ∧ cycle ≤ 24
  years : 0 ≤ year ∧ year ≤ 3
  days : 0 ≤ day ∧ day ≤ 365
  leap : day = 365 → year = 3 ∧ (cycle < 24 ∨ century = 3)
  sum : dayOfEra = 36524 * century + 1461 * cycle + 365 * year + day

theorem exists_eraPlace {dayOfEra : Int} (least : 0 ≤ dayOfEra) (most : dayOfEra < 146097) :
    ∃ century cycle year day, EraPlace dayOfEra century cycle year day := by
  obtain ⟨century, inCentury⟩ : ∃ century, 0 ≤ century ∧ century ≤ 3 ∧ 36524 * century ≤ dayOfEra
      ∧ (dayOfEra < 36524 * (century + 1) ∨ century = 3) := by
    by_cases last : dayOfEra < 109572
    · exact ⟨dayOfEra / 36524, by omega⟩
    · exact ⟨3, by omega⟩
  let inside := dayOfEra - 36524 * century
  have bound : 0 ≤ inside ∧ inside ≤ 36524 ∧ (inside = 36524 → century = 3) := by omega
  let cycle := inside / 1461
  let rest := inside - 1461 * cycle
  have inCycle : 0 ≤ cycle ∧ cycle ≤ 24 ∧ 0 ≤ rest ∧ rest ≤ 1460 ∧ (rest = 1460 → cycle < 24 ∨ century = 3) := by omega
  obtain ⟨year, inYear⟩ : ∃ year, 0 ≤ year ∧ year ≤ 3 ∧ 365 * year ≤ rest ∧ (rest < 365 * (year + 1) ∨ year = 3) := by
    by_cases last : rest < 1095
    · exact ⟨rest / 365, by omega⟩
    · exact ⟨3, by omega⟩
  exact ⟨century, cycle, year, rest - 365 * year, ⟨by omega, by omega, by omega, by omega, by omega, by omega⟩⟩

theorem EraPlace.yearOfEra_eq {dayOfEra century cycle year day : Int} (place : EraPlace dayOfEra century cycle year day) :
    (dayOfEra - dayOfEra / 1460 + dayOfEra / 36524 - dayOfEra / 146096) / 365 = 100 * century + 4 * cycle + year := by
  obtain ⟨⟨_, _⟩, ⟨_, _⟩, ⟨_, _⟩, ⟨_, _⟩, leap, sum⟩ := place
  -- The last day of an era counts as a century and as an era more, which cancel.
  have centuries : dayOfEra / 36524 - dayOfEra / 146096 = century := by
    by_cases last : dayOfEra = 146096
    · omega
    · have inside : dayOfEra < 36524 * (century + 1) := by omega
      have era : dayOfEra / 146096 = 0 := by omega
      have begun : dayOfEra / 36524 = century := by omega
      omega
  -- A cycle has a day more than four plain years. In its last year the surplus of the cycles before counts as a cycle.
  by_cases early : 24 * century + cycle + 365 * year + day < 1460
  · have cycles : dayOfEra / 1460 = 25 * century + cycle := by omega
    omega
  · have cycles : dayOfEra / 1460 = 25 * century + cycle + 1 := by omega
    omega

/-- The days before a year and the day in it. -/
theorem EraPlace.days_eq {dayOfEra century cycle year day : Int} (place : EraPlace dayOfEra century cycle year day) :
    365 * (100 * century + 4 * cycle + year) + (100 * century + 4 * cycle + year) / 4 - (100 * century + 4 * cycle + year) / 100 + day
      = dayOfEra := by
  obtain ⟨⟨_, _⟩, ⟨_, _⟩, ⟨_, _⟩, _, _, sum⟩ := place
  have quarters : (100 * century + 4 * cycle + year) / 4 = 25 * century + cycle := by omega
  have hundreds : (100 * century + 4 * cycle + year) / 100 = century := by omega
  omega

/-! ## The months from March -/

/-- The date on a day of a year that begins in March. -/
def fromMarch (year dayOfYear : Int) : CivilDate :=
  let monthFromMarch := (5 * dayOfYear + 2) / 153
  let day := (dayOfYear - (153 * monthFromMarch + 2) / 5 + 1).toNat
  let month := if monthFromMarch < 10 then (monthFromMarch + 3).toNat else (monthFromMarch - 9).toNat
  ⟨if month ≤ 2 then year + 1 else year, month, day⟩

section

variable {year dayOfYear : Int}

/-- What the date says of the month from March and of the day of the year. -/
structure MarchParts (year dayOfYear : Int) (monthFromMarch : Nat) (date : CivilDate) : Prop where
  months : monthFromMarch < 12
  months_eq : (5 * dayOfYear + 2) / 153 = monthFromMarch
  month : date.month = if monthFromMarch < 10 then monthFromMarch + 3 else monthFromMarch - 9
  year : date.year = if monthFromMarch < 10 then year else year + 1
  day : dayOfYear = (153 * monthFromMarch + 2) / 5 + date.day - 1
  first : 1 ≤ date.day

theorem exists_marchParts (year : Int) (bounds : 0 ≤ dayOfYear ∧ dayOfYear ≤ 365) :
    ∃ monthFromMarch, MarchParts year dayOfYear monthFromMarch (fromMarch year dayOfYear) := by
  obtain ⟨least, most⟩ := bounds
  have months : ((5 * dayOfYear + 2) / 153).toNat < 12 := by omega
  refine ⟨((5 * dayOfYear + 2) / 153).toNat, months, by omega, ?_, ?_, ?_, ?_⟩
  · rw [fromMarch]
    by_cases early : (5 * dayOfYear + 2) / 153 < 10
    · simp only [early, if_true]
      split <;> omega
    · simp only [early, if_false]
      split <;> omega
  · rw [fromMarch]
    by_cases early : (5 * dayOfYear + 2) / 153 < 10
    · simp only [early, if_true]
      split <;> split <;> omega
    · simp only [early, if_false]
      split <;> split <;> omega
  · simp only [fromMarch]
    omega
  · simp only [fromMarch]
    omega

/-- In a year from March on, whose era and years in that are known, a date tells its days. -/
theorem MarchParts.toDays_eq {monthFromMarch : Nat} {date : CivilDate} (parts : MarchParts year dayOfYear monthFromMarch date) :
    date.toDays = year / 400 * 146097 + (year % 400 * 365 + year % 400 / 4 - year % 400 / 100 + dayOfYear) - 719468 := by
  have begun : (if date.month ≤ 2 then date.year - 1 else date.year) = year := by
    rw [parts.month, parts.year]
    have months := parts.months
    by_cases early : monthFromMarch < 10
    · rw [if_pos early, if_pos early, if_neg (by omega)]
    · rw [if_neg early, if_neg early, if_pos (by omega)]
      omega
  have months : (date.month + 9) % 12 = monthFromMarch := by
    rw [parts.month]
    have months := parts.months
    split <;> omega
  have era : Int.fdiv year 400 = year / 400 := Int.fdiv_eq_ediv_of_nonneg year (by decide)
  have rest : year - year / 400 * 400 = year % 400 := by omega
  have days := parts.day
  simp only [toDays, begun, months, era, rest, Int.ofNat_eq_natCast]
  omega

end

/-! ## Days and dates -/

/-- The date of a day, by its era and its place in that. -/
theorem ofDays_eq (days : Int) : ∃ era century cycle year day, EraPlace (days + 719468 - era * 146097) century cycle year day
    ∧ ofDays days = fromMarch (100 * century + 4 * cycle + year + era * 400) day := by
  have bounds : 0 ≤ days + 719468 - (days + 719468) / 146097 * 146097 ∧ days + 719468 - (days + 719468) / 146097 * 146097 < 146097 := by
    omega
  obtain ⟨century, cycle, year, day, place⟩ := exists_eraPlace bounds.1 bounds.2
  refine ⟨(days + 719468) / 146097, century, cycle, year, day, place, ?_⟩
  have era : Int.fdiv (days + 719468) 146097 = (days + 719468) / 146097 := Int.fdiv_eq_ediv_of_nonneg _ (by decide)
  have inYear : days + 719468 - (days + 719468) / 146097 * 146097 - (365 * (100 * century + 4 * cycle + year)
      + (100 * century + 4 * cycle + year) / 4 - (100 * century + 4 * cycle + year) / 100) = day := by
    have whole := place.days_eq
    omega
  simp only [ofDays, era, place.yearOfEra_eq, inYear]
  rfl

/-- A date tells the day that it was made from. -/
theorem toDays_ofDays (days : Int) : (ofDays days).toDays = days := by
  obtain ⟨era, century, cycle, year, day, place, date⟩ := ofDays_eq days
  obtain ⟨monthFromMarch, parts⟩ := exists_marchParts (100 * century + 4 * cycle + year + era * 400) place.days
  have whole := place.days_eq
  obtain ⟨⟨_, _⟩, ⟨_, _⟩, ⟨_, _⟩, _, _, _⟩ := place
  have eras : (100 * century + 4 * cycle + year + era * 400) / 400 = era := by omega
  have years : (100 * century + 4 * cycle + year + era * 400) % 400 = 100 * century + 4 * cycle + year := by omega
  rw [date, parts.toDays_eq, eras, years]
  omega

/-- Only a year with a day more has that day, which is the last of February. -/
theorem EraPlace.isLeapYear {dayOfEra century cycle year : Int} (place : EraPlace dayOfEra century cycle year 365) (era : Int) :
    isLeapYear (100 * century + 4 * cycle + year + era * 400 + 1) = true := by
  obtain ⟨last, turn⟩ := place.leap rfl
  obtain ⟨⟨_, _⟩, ⟨_, _⟩, _, _, _, _⟩ := place
  have quarters : (100 * century + 4 * cycle + year + era * 400 + 1) % 4 = 0 := by omega
  rcases turn with early | whole
  · have hundreds : (100 * century + 4 * cycle + year + era * 400 + 1) % 100 ≠ 0 := by omega
    simp [CivilDate.isLeapYear, quarters, hundreds]
  · by_cases early : cycle < 24
    · have hundreds : (100 * century + 4 * cycle + year + era * 400 + 1) % 100 ≠ 0 := by omega
      simp [CivilDate.isLeapYear, quarters, hundreds]
    · have eras : (100 * century + 4 * cycle + year + era * 400 + 1) % 400 = 0 := by omega
      simp [CivilDate.isLeapYear, quarters, eras]

theorem MarchParts.day_le {year dayOfYear : Int} {monthFromMarch : Nat} {date : CivilDate}
    (parts : MarchParts year dayOfYear monthFromMarch date) (bounds : 0 ≤ dayOfYear ∧ dayOfYear ≤ 365)
    (leap : dayOfYear = 365 → isLeapYear (year + 1) = true) : date.day ≤ daysInMonth date.year date.month := by
  obtain ⟨months, months_eq, month, inYear, day, first⟩ := parts
  by_cases february : monthFromMarch = 11
  · subst february
    rw [month, inYear]
    change date.day ≤ if isLeapYear (year + 1) then 29 else 28
    split
    · omega
    · next plain =>
      have inside : dayOfYear ≠ 365 := fun last => plain (leap last)
      omega
  · rw [month]
    interval_cases monthFromMarch
    all_goals simp only [Nat.reduceLT, if_true, if_false, Nat.reduceAdd, Nat.reduceSub, daysInMonth]
    all_goals omega

/-- The month and the day exist in the year. -/
theorem ofDays_inYear (days : Int) : 1 ≤ (ofDays days).month ∧ (ofDays days).month ≤ 12 ∧ 1 ≤ (ofDays days).day
    ∧ (ofDays days).day ≤ daysInMonth (ofDays days).year (ofDays days).month := by
  obtain ⟨era, century, cycle, year, day, place, date⟩ := ofDays_eq days
  obtain ⟨monthFromMarch, parts⟩ := exists_marchParts (100 * century + 4 * cycle + year + era * 400) place.days
  rw [← date] at parts
  have months := parts.months
  have month := parts.month
  refine ⟨?_, ?_, parts.first, ?_⟩
  · split at month <;> omega
  · split at month <;> omega
  · apply parts.day_le place.days
    rintro rfl
    exact place.isLeapYear era

theorem isValid_ofDays {days : Int} (least : minYear ≤ (ofDays days).year) (most : (ofDays days).year ≤ maxYear) :
    (ofDays days).isValid = true := by
  simp [isValid, least, most, ofDays_inYear days]

theorem day_ofDays_le (days : Int) : (ofDays days).day ≤ 31 := by
  obtain ⟨-, -, -, inMonth⟩ := ofDays_inYear days
  refine Nat.le_trans inMonth ?_
  unfold daysInMonth
  split
  · split <;> decide
  all_goals decide

end LivePipeline.CivilDate
