/-!
# Decimal numerals

Numbers in texts are written in decimal digits, padded with zeros to a least
width, and read as a run of at most so many digits. A padded numeral that fits
its width reads back as the number it was written for. Numbers with a fraction are
not computed with, but those beyond the range of doubles are told apart.
-/

namespace Annunciator.Text

/-- The decimal digits of a number, with zeros in front up to a least width. -/
def padded (width number : Nat) : List Char :=
  let digits := Nat.toDigits 10 number
  List.replicate (width - digits.length) '0' ++ digits

/-- The run of at most `width` digits in front of a text, and what follows. -/
def digitRun (width : Nat) (text : List Char) : List Char × List Char :=
  let run := (text.take width).takeWhile Char.isDigit
  (run, text.drop run.length)

/-- Read one to `width` digits in front of a text as a number. -/
def number? (width : Nat) (text : List Char) : Option (Nat × List Char) :=
  match digitRun width text with
  | ([], _) => none
  | (run, rest) => some (Nat.ofDigitChars 10 run 0, rest)

/-- Read a character that has to come next. -/
def literal? (expected : Char) : List Char -> Option (List Char)
  | character :: rest => if character = expected then some rest else none
  | [] => none

/-- The least number that is rounded to no double: it lies half a unit above the
largest one. -/
def doubleBound : Nat := Nat.pow 2 1024 - Nat.pow 2 970

/-- Whether a number is beyond the range of doubles. It is given as decimal digits and
the power of ten that they are counted in; a number whose leading digit does not have
the place of the bound's is judged by this place alone. -/
def isBeyondDoubles (digits : List Char) (power : Int) : Bool :=
  let number := Nat.ofDigitChars 10 digits 0
  let places := (Nat.toDigits 10 number).length + power
  if number = 0 || places < 309 then false
  else if 309 < places then true
  else doubleBound * Nat.pow 10 (-power).toNat ≤ number * Nat.pow 10 power.toNat

/-- Padding adds zeros only, so a padded numeral stands for the same number. -/
theorem ofDigitChars_padded (width number : Nat) :
    Nat.ofDigitChars 10 (padded width number) 0 = number := by
  simp [padded, Nat.ofDigitChars_append, Nat.ofDigitChars_replicate_zero,
    Nat.ofDigitChars_ten_toDigits]

end Annunciator.Text
