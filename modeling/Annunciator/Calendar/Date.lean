import Annunciator.SortedMap

/-!
# Dates

Dates of the Gregorian calendar, carried back before its introduction, in the
years that a station's clock can show.
-/

namespace Annunciator

/-- Whether a year has a 29th of February. -/
def isLeapYear (year : Int) : Bool :=
  year % 4 = 0 && (year % 100 ≠ 0 || year % 400 = 0)

/-- The number of days of a month, counted from 1. -/
def daysInMonth (year : Int) (month : Nat) : Nat :=
  match month with
  | 2 => if isLeapYear year then 29 else 28
  | 4 | 6 | 9 | 11 => 30
  | _ => 31

/-- The earliest year a clock can show. -/
abbrev firstYear : Int := -262143

/-- The latest year a clock can show. -/
abbrev lastYear : Int := 262142

/-- A day of the calendar. -/
structure Date where
  year : Int
  month : Nat
  day : Nat
  yearInRange : firstYear ≤ year ∧ year ≤ lastYear
  monthInYear : 1 ≤ month ∧ month ≤ 12
  dayInMonth : 1 ≤ day ∧ day ≤ daysInMonth year month
  deriving DecidableEq, Repr

/-- No month has more than 31 days. -/
theorem daysInMonth_le (year : Int) (month : Nat) : daysInMonth year month ≤ 31 := by
  unfold daysInMonth
  split <;> (try split) <;> decide

namespace Date

/-- The date with these parts, if the calendar has it. -/
def ofParts? (year : Int) (month day : Nat) : Option Date :=
  if yearInRange : firstYear ≤ year ∧ year ≤ lastYear then
    if monthInYear : 1 ≤ month ∧ month ≤ 12 then
      if dayInMonth : 1 ≤ day ∧ day ≤ daysInMonth year month then
        some ⟨year, month, day, yearInRange, monthInYear, dayInMonth⟩
      else none
    else none
  else none

/-- The parts of a date make up the date. -/
theorem ofParts?_parts (date : Date) :
    ofParts? date.year date.month date.day = some date := by
  simp [ofParts?, date.yearInRange, date.monthInYear, date.dayInMonth]

/-- A position that grows with the date, with 31 places for every month. -/
def rank (date : Date) : Int :=
  (date.year * 12 + date.month) * 31 + date.day

/-- A date is determined by its position. -/
theorem rank_injective {left right : Date} (same : left.rank = right.rank) :
    left = right := by
  obtain ⟨leftYear, leftMonth, leftDay, _, leftMonthInYear, leftDayInMonth⟩ := left
  obtain ⟨rightYear, rightMonth, rightDay, _, rightMonthInYear, rightDayInMonth⟩ := right
  simp only [rank] at same
  have := daysInMonth_le leftYear leftMonth
  have := daysInMonth_le rightYear rightMonth
  simp only [mk.injEq]
  omega

/-- Dates in the order in which they pass. -/
instance : KeyOrder Date := .byRank rank rank_injective

/-! ## Days of the week -/

/-- The number of days from the first of March of year 0. Counting a year from
March puts the leap day at its end, so the months before it have fixed places. -/
def dayNumber (date : Date) : Int :=
  let year := if date.month ≤ 2 then date.year - 1 else date.year
  let month : Int := ((date.month + 9) % 12 : Nat)
  365 * year + year / 4 - year / 100 + year / 400 + (153 * month + 2) / 5 + date.day - 1

/-! ## Moving on -/

/-- The following day, unless the calendar ends. -/
def next? (date : Date) : Option Date :=
  if date.day < daysInMonth date.year date.month then
    ofParts? date.year date.month (date.day + 1)
  else if date.month < 12 then
    ofParts? date.year (date.month + 1) 1
  else
    ofParts? (date.year + 1) 1 1

/-- The date so many days later, unless the calendar ends before it. -/
def later? (date : Date) : Nat -> Option Date
  | 0 => some date
  | days + 1 => date.next? >>= fun following => following.later? days

end Date

end Annunciator
