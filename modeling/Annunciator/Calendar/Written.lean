import Annunciator.Calendar.Timestamp
import Annunciator.Text.Blank
import Annunciator.Text.Decimal

/-!
# Written times

Times of day are written `HH:MM:SS` and moments `YYYY-MM-DDTHH:MM:SS`, with three,
six or nine digits of a fraction when there is one, whichever is the fewest that
is exact. Years outside 0 to 9999 carry a sign.

Reading is a little wider: a two-digit field may have one digit, white space may
stand before a field, before its separator and at the end, a fraction may have
any number of digits of which nine count, and a time of day may leave out its
seconds.
-/

namespace Annunciator

open Text

/-! ## Writing -/

namespace TimeOfDay

/-- The fraction of a second in the fewest of 3, 6 or 9 digits, nothing for none. -/
def writtenFraction (nanosecond : Nat) : List Char :=
  if nanosecond = 0 then []
  else if nanosecond % 1000000 = 0 then '.' :: padded 3 (nanosecond / 1000000)
  else if nanosecond % 1000 = 0 then '.' :: padded 6 (nanosecond / 1000)
  else '.' :: padded 9 nanosecond

/-- The characters of a written time of day. -/
def written (time : TimeOfDay) : List Char :=
  padded 2 time.hour ++ ':' :: padded 2 time.minute ++ ':' :: padded 2 time.second
    ++ writtenFraction time.nanosecond

end TimeOfDay

namespace Date

/-- A year in four digits, signed when it has more digits or lies before year 0. -/
def writtenYear (year : Int) : List Char :=
  if year < 0 then '-' :: padded 4 year.natAbs
  else if year ≤ 9999 then padded 4 year.natAbs
  else '+' :: padded 4 year.natAbs

/-- The characters of a written date. -/
def written (date : Date) : List Char :=
  writtenYear date.year ++ '-' :: padded 2 date.month ++ '-' :: padded 2 date.day

end Date

/-- The characters of a written moment. -/
def Timestamp.written (moment : Timestamp) : List Char :=
  moment.date.written ++ 'T' :: moment.time.written

/-! ## Reading -/

/-- A number of one or two digits, after any white space. -/
def twoDigits? (text : List Char) : Option (Nat × List Char) :=
  number? 2 (skipBlanks text)

/-- A separator, after any white space. -/
def separator? (expected : Char) (text : List Char) : Option (List Char) :=
  literal? expected (skipBlanks text)

namespace TimeOfDay

/-- The time with these parts, if a day has it. -/
def ofParts? (hour minute second nanosecond : Nat) : Option TimeOfDay :=
  if inDay : hour < 24 ∧ minute < 60 ∧ second < 61 ∧ nanosecond < nanosPerSecond then
    some ⟨⟨hour, inDay.1⟩, ⟨minute, inDay.2.1⟩, ⟨second, inDay.2.2.1⟩,
      ⟨nanosecond, inDay.2.2.2⟩⟩
  else none

/-- The parts of a time make up the time. -/
theorem ofParts?_parts (time : TimeOfDay) :
    ofParts? time.hour time.minute time.second time.nanosecond = some time := by
  simp [ofParts?]

/-- A fraction of a second in nanoseconds, if a point announces one. Digits that are
missing to the ninth are zeros, and those past it are dropped. -/
def fraction? : List Char -> Option (Nat × List Char)
  | '.' :: text =>
      match digitRun 9 text with
      | ([], _) => none
      | (run, rest) =>
          some (Nat.ofDigitChars 10 (run ++ List.replicate (9 - run.length) '0') 0,
            rest.dropWhile Char.isDigit)
  | text => some (0, text)

/-- A colon, a second and its fraction. -/
def seconds? (text : List Char) : Option ((Nat × Nat) × List Char) := do
  let rest <- separator? ':' text
  let (second, rest) <- twoDigits? rest
  let (nanosecond, rest) <- fraction? rest
  some ((second, nanosecond), rest)

/-- An hour, a colon and a minute. -/
def hourAndMinute? (text : List Char) : Option ((Nat × Nat) × List Char) := do
  let (hour, rest) <- twoDigits? text
  let rest <- separator? ':' rest
  let (minute, rest) <- twoDigits? rest
  some ((hour, minute), rest)

/-- A whole written time of day, with or without seconds. -/
def ofWritten? (text : List Char) : Option TimeOfDay := do
  let ((hour, minute), rest) <- hourAndMinute? text
  if skipBlanks rest = [] then
    ofParts? hour minute 0 0
  else
    let ((second, nanosecond), rest) <- seconds? rest
    if skipBlanks rest = [] then ofParts? hour minute second nanosecond else none

end TimeOfDay

namespace Date

/-- A year: up to four digits, or a sign and any number of digits. -/
def year? (text : List Char) : Option (Int × List Char) :=
  match skipBlanks text with
  | '-' :: rest => (number? rest.length rest).map fun (year, rest) => (-(year : Int), rest)
  | '+' :: rest => (number? rest.length rest).map fun (year, rest) => ((year : Int), rest)
  | rest => (number? 4 rest).map fun (year, rest) => ((year : Int), rest)

/-- A written date and what follows it. -/
def ofWritten? (text : List Char) : Option (Date × List Char) := do
  let (year, rest) <- year? text
  let rest <- separator? '-' rest
  let (month, rest) <- twoDigits? rest
  let rest <- separator? '-' rest
  let (day, rest) <- twoDigits? rest
  let date <- ofParts? year month day
  some (date, rest)

end Date

/-- A whole written moment. -/
def Timestamp.ofWritten? (text : List Char) : Option Timestamp := do
  let (date, rest) <- Date.ofWritten? text
  let rest <- separator? 'T' rest
  let ((hour, minute), rest) <- TimeOfDay.hourAndMinute? rest
  let ((second, nanosecond), rest) <- TimeOfDay.seconds? rest
  let time <- TimeOfDay.ofParts? hour minute second nanosecond
  if skipBlanks rest = [] then some ⟨date, time⟩ else none

/-! ## Saved forms -/

instance : JsonForm TimeOfDay where
  toJson time := .text (String.ofList time.written)
  ofJson?
    | .text value => TimeOfDay.ofWritten? value.toList
    | _ => none

instance : JsonForm Timestamp where
  toJson moment := .text (String.ofList moment.written)
  ofJson?
    | .text value => Timestamp.ofWritten? value.toList
    | _ => none

end Annunciator
