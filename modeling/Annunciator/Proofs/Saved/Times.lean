import Annunciator.Calendar.Written
import Mathlib.Algebra.Group.Nat.Defs
import Mathlib.Data.List.TakeWhile

/-!
# Written times read back

Every time that a clock can show is written so that reading it gives the same time again. A
field of a written time is a padded numeral, and what ends it is that its width is used up or
that no digit follows. The fraction has one of three widths, and the year has no width at all.
-/

namespace Annunciator

namespace Text

/-! ## Numerals -/

/-- A padded numeral holds digits only. -/
theorem isDigit_of_mem_padded {width number : Nat} {character : Char}
    (member : character ∈ padded width number) : character.isDigit = true := by
  rcases List.mem_append.mp member with zero | digit
  · rw [List.eq_of_mem_replicate zero]
    rfl
  · exact Nat.isDigit_of_mem_toDigits (by decide) (by decide) digit

theorem padded_ne_nil (width number : Nat) : padded width number ≠ [] :=
  List.append_ne_nil_of_right_ne_nil _ Nat.toDigits_ne_nil

/-- A padded numeral starts with nothing but a digit. -/
theorem padded_append_ne_cons {width number : Nat} {rest others : List Char} {first : Char}
    (noDigit : first.isDigit = false) : padded width number ++ rest ≠ first :: others := by
  intro same
  cases digits : padded width number with
  | nil => exact padded_ne_nil width number digits
  | cons digit more =>
      rw [digits] at same
      cases same
      have isDigit := isDigit_of_mem_padded (digits ▸ List.mem_cons_self ..)
      rw [noDigit] at isDigit
      cases isDigit

/-- A number that fits a width is written in it. -/
theorem length_padded {width number : Nat} (positive : 0 < width) (fits : number < 10 ^ width) :
    (padded width number).length = width := by
  have short := (Nat.length_toDigits_le_iff (b := 10) (by decide) positive).mpr fits
  rw [padded, List.length_append, List.length_replicate]
  omega

/-- Where a run of digits ends: its width is used up, or no digit follows. -/
def Ends (width : Nat) (run rest : List Char) : Prop :=
  run.length = width ∨ ∀ character ∈ rest.head?, character.isDigit = false

/-- A run of digits is read up to where it ends. -/
theorem digitRun_of_ends {width : Nat} {run rest : List Char}
    (digits : ∀ character ∈ run, character.isDigit = true) (fits : run.length ≤ width)
    (ends : Ends width run rest) : digitRun width (run ++ rest) = (run, rest) := by
  have beyond : (rest.take (width - run.length)).takeWhile Char.isDigit = [] := by
    rcases ends with full | stopped
    · rw [full, Nat.sub_self, List.take_zero, List.takeWhile_nil]
    · cases rest with
      | nil => simp
      | cons character others =>
          have noDigit := stopped character rfl
          cases width - run.length with
          | zero => rfl
          | succ more => rw [List.take_succ_cons, List.takeWhile_cons_of_neg (by simp [noDigit])]
  have whole : ((run ++ rest).take width).takeWhile Char.isDigit = run := by
    rw [List.take_append, List.take_of_length_le fits,
      List.takeWhile_append_of_pos digits, beyond, List.append_nil]
  rw [digitRun, whole, List.drop_left]

/-- A padded numeral is read as its number. -/
theorem number?_padded {width least number : Nat} {rest : List Char}
    (fits : (padded least number).length ≤ width) (ends : Ends width (padded least number) rest) :
    number? width (padded least number ++ rest) = some (number, rest) := by
  rw [number?, digitRun_of_ends (fun _ => isDigit_of_mem_padded) fits ends]
  split
  · next empty => exact absurd (Prod.mk.inj empty).1 (padded_ne_nil least number)
  · next _ _ same =>
      cases same
      rw [ofDigitChars_padded]

/-- No white space is dropped in front of a numeral. -/
theorem skipBlanks_padded (width number : Nat) (rest : List Char) :
    skipBlanks (padded width number ++ rest) = padded width number ++ rest := by
  cases digits : padded width number with
  | nil => exact absurd digits (padded_ne_nil width number)
  | cons first others =>
      have digit : first.isDigit = true :=
        isDigit_of_mem_padded (digits ▸ List.mem_cons_self ..)
      exact skipBlanks_cons_of_not_blank (isBlank_eq_false_of_isDigit digit) _

end Text

open Text

/-! ## Fields -/

/-- A field of two digits is read as its number. -/
theorem twoDigits?_padded {number : Nat} (fits : number < 100) (rest : List Char) :
    twoDigits? (padded 2 number ++ rest) = some (number, rest) := by
  have width : (padded 2 number).length = 2 := length_padded (by decide) fits
  rw [twoDigits?, skipBlanks_padded]
  exact number?_padded (Nat.le_of_eq width) (.inl width)

/-- A separator is read off the front of a text. -/
theorem separator?_cons {separator : Char} (notBlank : isBlank separator = false)
    (rest : List Char) : separator? separator (separator :: rest) = some rest := by
  rw [separator?, skipBlanks_cons_of_not_blank notBlank, literal?, if_pos rfl]

namespace TimeOfDay

/-- A numeral of a fraction counts as many nanoseconds as the zeros behind it say. -/
theorem fraction?_padded {width number nanosecond : Nat} (positive : 0 < width)
    (short : width ≤ 9) (fits : number < 10 ^ width)
    (scaled : number * 10 ^ (9 - width) = nanosecond) :
    fraction? ('.' :: padded width number) = some (nanosecond, []) := by
  have size := length_padded positive fits
  have run : digitRun 9 (padded width number) = (padded width number, []) := by
    have ends : Ends 9 (padded width number) [] := .inr fun _ none => nomatch none
    have read := digitRun_of_ends (fun _ => isDigit_of_mem_padded) (size.le.trans short) ends
    rwa [List.append_nil] at read
  rw [fraction?, run]
  split
  · next empty => exact absurd (Prod.mk.inj empty).1 (padded_ne_nil width number)
  · next _ _ same =>
      cases same
      rw [Nat.ofDigitChars_append, ofDigitChars_padded, Nat.ofDigitChars_replicate_zero, size,
        ← scaled, Nat.mul_comm]
      rfl

/-- The fewest digits that are exact are read as the fraction that they stand for. -/
theorem fraction?_written {nanosecond : Nat} (inSecond : nanosecond < nanosPerSecond) :
    fraction? (writtenFraction nanosecond) = some (nanosecond, []) := by
  rw [nanosPerSecond] at inSecond
  rw [writtenFraction]
  split
  · next whole =>
      rw [whole]
      rfl
  · split
    · next millis => exact fraction?_padded (by decide) (by decide) (by omega) (by omega)
    · split
      · next micros => exact fraction?_padded (by decide) (by decide) (by omega) (by omega)
      · next => exact fraction?_padded (by decide) (by decide) (by omega) (by omega)

/-- The seconds of a written time are read with their fraction. -/
theorem seconds?_written (time : TimeOfDay) :
    seconds? (':' :: padded 2 time.second ++ writtenFraction time.nanosecond) =
      some ((time.second.val, time.nanosecond.val), []) := by
  have inMinute : time.second.val < 100 := Nat.lt_trans time.second.isLt (by decide)
  rw [seconds?, List.cons_append, separator?_cons (by decide)]
  simp only [Option.bind_eq_bind, Option.bind_some, twoDigits?_padded inMinute,
    fraction?_written time.nanosecond.isLt]

/-- The hour and the minute of a written time are read, whatever follows them. -/
theorem hourAndMinute?_written (time : TimeOfDay) (rest : List Char) :
    hourAndMinute? (padded 2 time.hour ++ ':' :: padded 2 time.minute ++ rest) =
      some ((time.hour.val, time.minute.val), rest) := by
  have inDay : time.hour.val < 100 := Nat.lt_trans time.hour.isLt (by decide)
  have inHour : time.minute.val < 100 := Nat.lt_trans time.minute.isLt (by decide)
  rw [hourAndMinute?, List.append_assoc, twoDigits?_padded inDay]
  simp only [Option.bind_eq_bind, Option.bind_some, List.cons_append,
    separator?_cons (show isBlank ':' = false by decide), twoDigits?_padded inHour]

/-- A written time is its hour and minute, and then its seconds. -/
theorem written_eq (time : TimeOfDay) :
    time.written = padded 2 time.hour ++ ':' :: padded 2 time.minute ++
      (':' :: padded 2 time.second ++ writtenFraction time.nanosecond) := by
  simp [written]

/-- A written time of day is read as the same time, a leap second included. -/
theorem ofWritten?_written (time : TimeOfDay) : ofWritten? time.written = some time := by
  have more : skipBlanks (':' :: padded 2 time.second ++ writtenFraction time.nanosecond) ≠ [] := by
    rw [List.cons_append, skipBlanks_cons_of_not_blank (by decide)]
    exact List.cons_ne_nil _ _
  rw [written_eq, ofWritten?, hourAndMinute?_written]
  simp only [Option.bind_eq_bind, Option.bind_some, if_neg more, seconds?_written]
  exact ofParts?_parts time

end TimeOfDay

namespace Date

/-- A written year is read as the same year, with or without a sign. -/
theorem year?_written (year : Int) {rest : List Char} (ends : rest.head? = some '-') :
    year? (writtenYear year ++ rest) = some (year, rest) := by
  have stops : ∀ character ∈ rest.head?, character.isDigit = false := by
    rw [ends]
    rintro _ ⟨⟩
    rfl
  have anyWidth : number? (padded 4 year.natAbs ++ rest).length (padded 4 year.natAbs ++ rest) =
      some (year.natAbs, rest) :=
    number?_padded (by simp) (.inr stops)
  rw [writtenYear]
  split
  · next before =>
      have size : (-(year.natAbs : Int)) = year := by omega
      rw [year?, List.cons_append, skipBlanks_cons_of_not_blank (by decide)]
      simp only [anyWidth, Option.map_some, size]
  · next notBefore =>
      have size : (year.natAbs : Int) = year := by omega
      split
      · next short =>
          have width : (padded 4 year.natAbs).length = 4 :=
            length_padded (by decide) (by omega)
          have fourDigits : number? 4 (padded 4 year.natAbs ++ rest) = some (year.natAbs, rest) :=
            number?_padded (Nat.le_of_eq width) (.inl width)
          rw [year?, skipBlanks_padded]
          split
          · next signed => exact absurd signed (padded_append_ne_cons (by decide))
          · next signed => exact absurd signed (padded_append_ne_cons (by decide))
          · simp only [fourDigits, Option.map_some, size]
      · rw [year?, List.cons_append, skipBlanks_cons_of_not_blank (by decide)]
        simp only [anyWidth, Option.map_some, size]

/-- A written date is read as the same date, and what follows is left. -/
theorem ofWritten?_written (date : Date) (rest : List Char) :
    ofWritten? (date.written ++ rest) = some (date, rest) := by
  have inYear : date.month < 100 := Nat.lt_of_le_of_lt date.monthInYear.2 (by decide)
  have inMonth : date.day < 100 := by
    have longest := daysInMonth_le date.year date.month
    have last := date.dayInMonth.2
    omega
  have noBlank : isBlank '-' = false := by decide
  have split : date.written ++ rest = writtenYear date.year ++
      ('-' :: (padded 2 date.month ++ '-' :: (padded 2 date.day ++ rest))) := by
    simp [written]
  rw [split, ofWritten?, year?_written date.year rfl]
  simp only [Option.bind_eq_bind, Option.bind_some, separator?_cons noBlank,
    twoDigits?_padded inYear, twoDigits?_padded inMonth, ofParts?_parts date]

end Date

/-- A written moment is read as the same moment, whatever year it is in. -/
theorem Timestamp.ofWritten?_written (moment : Timestamp) :
    ofWritten? moment.written = some moment := by
  have noBlank : isBlank 'T' = false := by decide
  have parts := TimeOfDay.ofParts?_parts moment.time
  rw [written, moment.time.written_eq, ofWritten?, Date.ofWritten?_written]
  simp only [Option.bind_eq_bind, Option.bind_some, separator?_cons noBlank,
    TimeOfDay.hourAndMinute?_written, TimeOfDay.seconds?_written, parts]
  rfl

end Annunciator
