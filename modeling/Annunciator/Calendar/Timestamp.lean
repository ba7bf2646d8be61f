import Annunciator.Calendar.TimeOfDay
import Annunciator.Calendar.Weekday

/-!
# Timestamps

A moment on the station's own clock: a date and a time of day, without a zone.
-/

namespace Annunciator

/-- A date with a time of day. -/
structure Timestamp where
  date : Date
  time : TimeOfDay
  deriving DecidableEq, Repr

namespace Timestamp

/-- The number of places that a day has for its times. -/
abbrev placesPerDay : Int := 24 * 60 * 61 * (nanosPerSecond : Int)

/-- A position that grows with the moment. -/
def rank (moment : Timestamp) : Int :=
  moment.date.rank * placesPerDay + moment.time.rank

/-- A time of day stays within the places of its day. -/
theorem time_rank_lt (time : TimeOfDay) : (time.rank : Int) < placesPerDay := by
  obtain ⟨hour, minute, second, nano⟩ := time
  have nanoBound : nano.val < 1000000000 := nano.isLt
  simp only [TimeOfDay.rank, placesPerDay, nanosPerSecond]
  omega

/-- A moment is determined by its position. -/
theorem rank_injective {left right : Timestamp} (same : left.rank = right.rank) :
    left = right := by
  obtain ⟨leftDate, leftTime⟩ := left
  obtain ⟨rightDate, rightTime⟩ := right
  simp only [rank] at same
  have leftBelow := time_rank_lt leftTime
  have rightBelow := time_rank_lt rightTime
  simp only [placesPerDay, nanosPerSecond] at same leftBelow rightBelow
  have dates : leftDate.rank = rightDate.rank := by omega
  have times : leftTime.rank = rightTime.rank := by omega
  rw [Date.rank_injective dates, TimeOfDay.rank_injective times]

/-- Moments in the order in which they pass. -/
instance : KeyOrder Timestamp := .byRank rank rank_injective

instance : LE Timestamp where
  le left right := left.rank ≤ right.rank

instance : DecidableLE Timestamp := fun left right =>
  inferInstanceAs (Decidable (left.rank ≤ right.rank))

/-- The day of the week of a moment. -/
def weekday (moment : Timestamp) : Weekday := moment.date.weekday

/-- The moment so many milliseconds later, unless the calendar ends before it. -/
def later? (moment : Timestamp) (milliseconds : Nat) : Option Timestamp :=
  let (time, days) := moment.time.later (milliseconds * 1000000)
  (moment.date.later? days).map fun date => ⟨date, time⟩

/-- Noon of a Wednesday, a moment for runs that are written out. -/
def noon : Timestamp :=
  ⟨⟨2024, 3, 6, by decide, by decide, by decide⟩, .ofNanoseconds (12 * 3600 * nanosPerSecond)⟩

end Timestamp

end Annunciator
