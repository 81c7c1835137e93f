import ChatLedger.Time.Calendar

/-!
# Days and dates

Counting days and naming dates are inverse to each other.

1. `Date.toDays_ofDays`: the date of a day is counted back to the day.
2. `Date.isValid_ofDays`: it is a date that exists.

Both are read off the parts into which `Date.ofDays` splits a count of days (`Parts`): a cycle of
400 years, a century, a span of four years, a year, and a day of that year.
-/

namespace ChatLedger.Time

/-- The parts of a count of days, from the first of March of year 0 on. -/
structure Parts (n cycle century span yearOfSpan dayOfYear : Int) : Prop where
  sum : n = cycle * 146097 + century * 36524 + span * 1461 + yearOfSpan * 365 + dayOfYear
  century_range : 0 ≤ century ∧ century ≤ 3
  span_range : 0 ≤ span ∧ span ≤ 24
  year_range : 0 ≤ yearOfSpan ∧ yearOfSpan ≤ 3
  day_range : 0 ≤ dayOfYear ∧ dayOfYear ≤ 365
  /-- A year of 366 days ends in February of a leap year. -/
  leap : dayOfYear = 365 → yearOfSpan = 3 ∧ (span = 24 → century = 3)

/-- The parts that `Date.ofDays` computes. -/
theorem exists_parts (n : Int) :
    let dayOfCycle := n % 146097
    let century := min (dayOfCycle / 36524) 3
    let dayOfCentury := dayOfCycle - century * 36524
    let dayOfSpan := dayOfCentury % 1461
    let yearOfSpan := min (dayOfSpan / 365) 3
    Parts n (n / 146097) century (dayOfCentury / 1461) yearOfSpan
      (dayOfSpan - yearOfSpan * 365) := by
  intro dayOfCycle century dayOfCentury dayOfSpan yearOfSpan
  have hcycle : 0 ≤ dayOfCycle ∧ dayOfCycle < 146097 := by omega
  have hcentury : 0 ≤ century ∧ century ≤ 3 := by omega
  have hday : 0 ≤ dayOfCentury ∧ dayOfCentury ≤ 36524 ∧ (dayOfCentury = 36524 → century = 3) := by
    omega
  have hspan : 0 ≤ dayOfSpan ∧ dayOfSpan ≤ 1460 := by omega
  have hyear : 0 ≤ yearOfSpan ∧ yearOfSpan ≤ 3 := by omega
  constructor <;> omega

/-- The date of a day of a year that begins in March. -/
def Date.inYear (year dayOfYear : Int) : Date :=
  let month := (5 * dayOfYear + 2) / 153
  let day := dayOfYear - (153 * month + 2) / 5 + 1
  if month < 10 then ⟨year, (month + 3).toNat, day.toNat⟩
  else ⟨year + 1, (month - 9).toNat, day.toNat⟩

theorem Date.ofDays_eq (days : Int) :
    ∃ cycle century span yearOfSpan dayOfYear,
      Parts (days + epochOffset) cycle century span yearOfSpan dayOfYear ∧
      Date.ofDays days =
        Date.inYear (cycle * 400 + century * 100 + span * 4 + yearOfSpan) dayOfYear :=
  ⟨_, _, _, _, _, exists_parts _, rfl⟩

/-- Days are counted from the beginning of the year in March on. -/
theorem Date.toDays_inYear {year dayOfYear : Int} (h : 0 ≤ dayOfYear ∧ dayOfYear ≤ 365) :
    (Date.inYear year dayOfYear).toDays =
      year / 400 * 146097 + year % 400 * 365 + year % 400 / 4 - year % 400 / 100 + dayOfYear -
        epochOffset := by
  have hmonth : 0 ≤ (5 * dayOfYear + 2) / 153 ∧ (5 * dayOfYear + 2) / 153 ≤ 11 := by omega
  have hday : 0 ≤ dayOfYear - (153 * ((5 * dayOfYear + 2) / 153) + 2) / 5 := by omega
  unfold Date.inYear Date.toDays
  dsimp only
  split
  · rename_i hearly
    have hnot : ¬ ((5 * dayOfYear + 2) / 153 + 3).toNat ≤ 2 := by omega
    simp only [hnot, if_false]
    omega
  · rename_i hlate
    have hle : ((5 * dayOfYear + 2) / 153 - 9).toNat ≤ 2 := by omega
    simp only [hle, if_true]
    omega

/-- **Dates are counted back** to their days. -/
theorem Date.toDays_ofDays (days : Int) : (Date.ofDays days).toDays = days := by
  obtain ⟨cycle, century, span, yearOfSpan, dayOfYear, parts, hdate⟩ := Date.ofDays_eq days
  obtain ⟨hsum, hcentury, hspan, hyear, hday, -⟩ := parts
  rw [hdate, Date.toDays_inYear hday]
  omega

/-- The last day of February comes only in leap years. -/
theorem isLeapYear_of_parts {n cycle century span yearOfSpan dayOfYear : Int}
    (parts : Parts n cycle century span yearOfSpan dayOfYear) (h : dayOfYear = 365) :
    isLeapYear (cycle * 400 + century * 100 + span * 4 + yearOfSpan + 1) = true := by
  obtain ⟨hyear, hlast⟩ := parts.leap h
  have hcentury := parts.century_range
  have hspan := parts.span_range
  unfold isLeapYear
  rw [decide_eq_true_iff]
  omega

/-- **Dates of days exist.** -/
theorem Date.isValid_ofDays (days : Int) : (Date.ofDays days).isValid = true := by
  obtain ⟨cycle, century, span, yearOfSpan, dayOfYear, parts, hdate⟩ := Date.ofDays_eq days
  have hleap := isLeapYear_of_parts parts
  have hday := parts.day_range
  rw [hdate]
  generalize cycle * 400 + century * 100 + span * 4 + yearOfSpan = year at hleap
  unfold Date.inYear
  dsimp only
  generalize hmonth : (5 * dayOfYear + 2) / 153 = month
  have hrange : 0 ≤ month ∧ month ≤ 11 := by omega
  by_cases hlate : month < 10
  · rw [if_pos hlate]
    unfold Date.isValid daysInMonth
    have hfebruary : (month + 3).toNat ≠ 2 := by omega
    simp only [Bool.and_eq_true, decide_eq_true_eq, if_neg hfebruary]
    split <;> omega
  · rw [if_neg hlate]
    unfold Date.isValid
    simp only [Bool.and_eq_true, decide_eq_true_eq]
    rcases (by omega : month = 10 ∨ month = 11) with rfl | rfl
    · have hjanuary : daysInMonth (year + 1) ((10 : Int) - 9).toNat = 31 := rfl
      omega
    · have hfebruary : daysInMonth (year + 1) ((11 : Int) - 9).toNat =
          if isLeapYear (year + 1) then 29 else 28 := rfl
      by_cases hlast : dayOfYear = 365
      · rw [hleap hlast, if_pos rfl] at hfebruary
        omega
      · have hleast : 28 ≤ daysInMonth (year + 1) ((11 : Int) - 9).toNat := by
          rw [hfebruary]
          split <;> omega
        omega

end ChatLedger.Time
