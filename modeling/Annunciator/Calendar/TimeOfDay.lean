import Annunciator.SortedMap

/-!
# Times of day

A time of day on the station's own clock, to the nanosecond. Any minute may have
a leap second, its second number 60. A leap second lies after the rest of its
minute and before the next minute, and it has no length of its own: once a sum
leaves it, the clock counts as if it had stood at second 59.
-/

namespace Annunciator

/-- The number of nanoseconds in a second. -/
abbrev nanosPerSecond : Nat := 1000000000

/-- A time of day; second 60 is a leap second. -/
structure TimeOfDay where
  hour : Fin 24
  minute : Fin 60
  second : Fin 61
  nanosecond : Fin nanosPerSecond
  deriving DecidableEq, Repr

namespace TimeOfDay

/-- The position of a time in its day, with a place for every leap second. -/
def rank (time : TimeOfDay) : Nat :=
  ((time.hour.val * 60 + time.minute.val) * 61 + time.second.val) * nanosPerSecond
    + time.nanosecond.val

/-- A time is determined by its position in the day. -/
theorem rank_injective {left right : TimeOfDay} (same : left.rank = right.rank) :
    left = right := by
  obtain ⟨leftHour, leftMinute, leftSecond, leftNano⟩ := left
  obtain ⟨rightHour, rightMinute, rightSecond, rightNano⟩ := right
  simp only [rank, nanosPerSecond] at same
  have leftBound : leftNano.val < 1000000000 := leftNano.isLt
  have rightBound : rightNano.val < 1000000000 := rightNano.isLt
  simp only [mk.injEq, Fin.ext_iff]
  omega

/-- Times of a day in the order in which they pass. -/
instance : KeyOrder TimeOfDay := .byRank rank rank_injective

instance : LE TimeOfDay where
  le left right := left.rank ≤ right.rank

instance : DecidableLE TimeOfDay := fun left right =>
  inferInstanceAs (Decidable (left.rank ≤ right.rank))

/-- Midnight, where a day starts. -/
def midnight : TimeOfDay := ⟨0, 0, 0, 0⟩

/-- The last full second of a day, 23:59:59. -/
def lastSecond : TimeOfDay := ⟨23, 59, 59, 0⟩

/-- The second number without a leap second: the leap second counts as 59. -/
def plainSecond (time : TimeOfDay) : Nat := min time.second.val 59

/-- The time with its sub-second part cleared; a leap second becomes second 59. -/
def toWholeSecond (time : TimeOfDay) : TimeOfDay :=
  { time with second := ⟨time.plainSecond, by simp only [plainSecond]; omega⟩, nanosecond := 0 }

/-- Whether a time lies between two others, both of them included. A span whose
start is after its end is empty. -/
def within (time start finish : TimeOfDay) : Bool :=
  start ≤ time && time ≤ finish

/-! ## Moving on -/

/-- The nanoseconds since midnight, a leap second counting as second 59. -/
def sinceMidnight (time : TimeOfDay) : Nat :=
  ((time.hour.val * 60 + time.minute.val) * 60 + time.plainSecond) * nanosPerSecond
    + time.nanosecond.val

/-- The time that stands so many nanoseconds after midnight, days left out. -/
def ofNanoseconds (count : Nat) : TimeOfDay where
  hour := ⟨count / (3600 * nanosPerSecond) % 24, Nat.mod_lt _ (by decide)⟩
  minute := ⟨count / (60 * nanosPerSecond) % 60, Nat.mod_lt _ (by decide)⟩
  second := ⟨count / nanosPerSecond % 60, Nat.lt_of_lt_of_le (Nat.mod_lt _ (by decide)) (by decide)⟩
  nanosecond := ⟨count % nanosPerSecond, Nat.mod_lt _ (by decide)⟩

/-- The time so many nanoseconds later and the number of midnights passed. A sum
that stays inside its leap second only moves on the nanoseconds. -/
def later (time : TimeOfDay) (nanoseconds : Nat) : TimeOfDay × Nat :=
  if inside : time.second.val = 60 ∧ time.nanosecond.val + nanoseconds < nanosPerSecond then
    ({ time with nanosecond := ⟨time.nanosecond.val + nanoseconds, inside.2⟩ }, 0)
  else
    let count := time.sinceMidnight + nanoseconds
    (ofNanoseconds count, count / (86400 * nanosPerSecond))

end TimeOfDay

end Annunciator
