import Annunciator.Calendar.Date
import Annunciator.Json.Form

/-!
# Days of the week

The seven days from Monday on, and sets of them as a mask with one bit per day.
-/

namespace Annunciator

/-- A day of the week. -/
inductive Weekday where
  | monday | tuesday | wednesday | thursday | friday | saturday | sunday
  deriving DecidableEq, Repr

namespace Weekday

/-- The days from Monday to Sunday. -/
def all : List Weekday :=
  [monday, tuesday, wednesday, thursday, friday, saturday, sunday]

/-- The place of a day in the week, Monday being 0. -/
def index : Weekday -> Nat
  | monday => 0
  | tuesday => 1
  | wednesday => 2
  | thursday => 3
  | friday => 4
  | saturday => 5
  | sunday => 6

/-- The day at a place of the week. -/
def ofIndex? (index : Nat) : Option Weekday := all[index]?

end Weekday

/-- The day of the week of a date. The first of March of year 0 is a Wednesday. -/
def Date.weekday (date : Date) : Weekday :=
  match (date.dayNumber + 2) % 7 with
  | 0 => .monday
  | 1 => .tuesday
  | 2 => .wednesday
  | 3 => .thursday
  | 4 => .friday
  | 5 => .saturday
  | _ => .sunday

/-- A set of days of the week as a mask: bit 0 is Monday, bit 6 is Sunday. A mask
that was read keeps its eighth bit, which stands for no day. -/
structure DaysOfWeek where
  bits : UInt8
  deriving DecidableEq, Repr

namespace DaysOfWeek

/-- No day at all. -/
def none : DaysOfWeek := ⟨0⟩

/-- Every day of the week. -/
def all : DaysOfWeek := ⟨0x7F⟩

/-- Monday to Friday. -/
def weekdays : DaysOfWeek := ⟨0x1F⟩

/-- Saturday and Sunday. -/
def weekend : DaysOfWeek := ⟨0x60⟩

/-- The days of a raw mask; the bit above the seventh is dropped. -/
def ofBits (bits : UInt8) : DaysOfWeek := ⟨bits &&& 0x7F⟩

/-- The bit that stands for a day. -/
def bit (day : Weekday) : UInt8 := 1 <<< UInt8.ofNat day.index

/-- The set with one more day. -/
def insert (days : DaysOfWeek) (day : Weekday) : DaysOfWeek := ⟨days.bits ||| bit day⟩

/-- The set of some days. -/
def ofList (days : List Weekday) : DaysOfWeek := days.foldl insert none

/-- Whether a day belongs to the set. -/
def contains (days : DaysOfWeek) (day : Weekday) : Bool := days.bits &&& bit day ≠ 0

end DaysOfWeek

instance : JsonForm DaysOfWeek where
  toJson days := toJson days.bits
  ofJson? value := (ofJson? value).map DaysOfWeek.mk

end Annunciator
