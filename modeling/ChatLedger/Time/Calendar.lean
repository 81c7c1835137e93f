/-!
# The calendar

Days of the proleptic Gregorian calendar, counted from the first of January 1970.

1. `Date.ofDays` splits a count of days into cycles of 400 years, centuries, spans of four years
   and years. Years begin in March here, so that a leap day is always the last one.
2. `Date.toDays` counts back.
-/

namespace ChatLedger.Time

/-- A day of the calendar. -/
structure Date where
  year : Int
  month : Nat
  day : Nat
  deriving Repr, DecidableEq

/-- Days from the first of March of year 0 to the first of January 1970. -/
def epochOffset : Int := 719468

/-- The year has a 29th of February. -/
def isLeapYear (year : Int) : Bool := year % 4 = 0 ∧ (year % 100 ≠ 0 ∨ year % 400 = 0)

/-- The number of days in a month. -/
def daysInMonth (year : Int) (month : Nat) : Nat :=
  if month = 2 then if isLeapYear year then 29 else 28
  else if month = 4 ∨ month = 6 ∨ month = 9 ∨ month = 11 then 30
  else 31

/-- The day exists. -/
def Date.isValid (d : Date) : Bool :=
  1 ≤ d.month && d.month ≤ 12 && 1 ≤ d.day && d.day ≤ daysInMonth d.year d.month

/-- Days from the first of January 1970 to the date. -/
def Date.toDays (d : Date) : Int :=
  let year := if d.month ≤ 2 then d.year - 1 else d.year
  let month : Int := if d.month ≤ 2 then d.month + 9 else d.month - 3
  let cycle := year / 400
  let yearOfCycle := year % 400
  let dayOfYear := (153 * month + 2) / 5 + d.day - 1
  cycle * 146097 + yearOfCycle * 365 + yearOfCycle / 4 - yearOfCycle / 100 + dayOfYear - epochOffset

/-- The date that lies the given number of days after the first of January 1970. -/
def Date.ofDays (days : Int) : Date :=
  let n := days + epochOffset
  let cycle := n / 146097
  let dayOfCycle := n % 146097
  let century := min (dayOfCycle / 36524) 3
  let dayOfCentury := dayOfCycle - century * 36524
  let span := dayOfCentury / 1461
  let dayOfSpan := dayOfCentury % 1461
  let yearOfSpan := min (dayOfSpan / 365) 3
  let dayOfYear := dayOfSpan - yearOfSpan * 365
  let year := cycle * 400 + century * 100 + span * 4 + yearOfSpan
  let month := (5 * dayOfYear + 2) / 153
  let day := dayOfYear - (153 * month + 2) / 5 + 1
  if month < 10 then ⟨year, (month + 3).toNat, day.toNat⟩
  else ⟨year + 1, (month - 9).toNat, day.toNat⟩

end ChatLedger.Time
