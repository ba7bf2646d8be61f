import Annunciator.Calendar.Date
import Annunciator.Json.Basic
import Annunciator.Text.Decimal
import Annunciator.Text.Hex

/-!
# Lexemes of TOML

The parts of a TOML text that hold no other values: white space and comments,
strings, and the words that stand for truth values, numbers and times. Texts are
read as characters whose line ends are single line feeds.
-/

namespace Annunciator.Toml

/-- Turn every line end into a line feed. A carriage return stands nowhere else. -/
def unifyLineEnds? : List Char -> Option (List Char)
  | [] => some []
  | '\r' :: '\n' :: rest => (unifyLineEnds? rest).map ('\n' :: ·)
  | character :: rest =>
      if character = '\r' then none else (unifyLineEnds? rest).map (character :: ·)

/-! ## White space and comments -/

/-- Whether a character is white space within a line. -/
def isSpace (character : Char) : Bool := character = ' ' || character = '\t'

/-- Drop the white space of a line. -/
def skipSpaces (text : List Char) : List Char := text.dropWhile isSpace

/-- Whether a character may stand in comments and strings: no control character
other than the tab. -/
def isPlain (character : Char) : Bool :=
  character = '\t' || (' ' ≤ character && character ≠ '\x7f')

/-- Drop a comment, up to the end of its line. -/
def skipComment : List Char -> List Char
  | '#' :: rest => rest.dropWhile isPlain
  | text => text

/-- Drop white space, comments and line ends. The flag says whether a comment is
being passed. -/
def skipFillerFrom : Bool -> List Char -> List Char
  | _, [] => []
  | true, character :: rest =>
      if isPlain character then skipFillerFrom true rest
      else if character = '\n' then skipFillerFrom false rest
      else character :: rest
  | false, character :: rest =>
      if isSpace character || character = '\n' then skipFillerFrom false rest
      else if character = '#' then skipFillerFrom true rest
      else character :: rest

/-- Drop white space, comments and line ends. -/
def skipFiller (text : List Char) : List Char := skipFillerFrom false text

/-- Pass the end of a line: white space, a comment, and a line feed or the end of
the text. -/
def endOfLine? (text : List Char) : Option (List Char) :=
  match skipComment (skipSpaces text) with
  | [] => some []
  | '\n' :: rest => some rest
  | _ => none

/-! ## Strings -/

/-- The character with a number written in hexadecimal digits. -/
def scalar? (digits : List Char) : Option Char := do
  let values <- digits.mapM Text.hexDigit?
  let number := values.foldl (fun total digit => 16 * total + digit) 0
  if number.isValidChar then some (Char.ofNat number) else none

/-- The character that a one-letter escape stands for. -/
def escaped? : Char -> Option Char
  | 'b' => some '\x08'
  | 't' => some '\t'
  | 'n' => some '\n'
  | 'f' => some '\x0c'
  | 'r' => some '\r'
  | '"' => some '"'
  | '\\' => some '\\'
  | _ => none

/-- Put a character in front of what was read. -/
def prepend (character : Char) (read : List Char × List Char) : List Char × List Char :=
  (character :: read.1, read.2)

/-- The rest of a basic string, whose escapes begin with a backslash. -/
def basicString? : List Char -> Option (List Char × List Char)
  | '"' :: rest => some ([], rest)
  | '\\' :: 'u' :: a :: b :: c :: d :: rest => do
      some (prepend (<- scalar? [a, b, c, d]) (<- basicString? rest))
  | '\\' :: 'U' :: a :: b :: c :: d :: e :: f :: g :: h :: rest => do
      some (prepend (<- scalar? [a, b, c, d, e, f, g, h]) (<- basicString? rest))
  | '\\' :: letter :: rest => do
      some (prepend (<- escaped? letter) (<- basicString? rest))
  | character :: rest =>
      if isPlain character && character ≠ '\\' then
        (basicString? rest).map (prepend character)
      else none
  | [] => none

/-- The rest of a literal string, in which every character stands for itself. -/
def literalString? : List Char -> Option (List Char × List Char)
  | '\'' :: rest => some ([], rest)
  | character :: rest =>
      if isPlain character then (literalString? rest).map (prepend character) else none
  | [] => none

/-- The end of a string of several lines: up to two more quotes belong to it. -/
def closeLines (quote : Char) (rest : List Char) : List Char × List Char :=
  let more := (rest.take 2).takeWhile (· = quote)
  (more, rest.drop more.length)

/-- Whether only white space is left of the line. -/
def atLineEnd (text : List Char) : Bool := (skipSpaces text).head? = some '\n'

/-- The rest of a basic string of several lines. A backslash at the end of a line
takes away the line end and all white space behind it; the flag says whether that
is being taken away. -/
def basicLines? : Bool -> List Char -> Option (List Char × List Char)
  | _, '"' :: '"' :: '"' :: rest => some (closeLines '"' rest)
  | _, '\\' :: 'u' :: a :: b :: c :: d :: rest => do
      some (prepend (<- scalar? [a, b, c, d]) (<- basicLines? false rest))
  | _, '\\' :: 'U' :: a :: b :: c :: d :: e :: f :: g :: h :: rest => do
      some (prepend (<- scalar? [a, b, c, d, e, f, g, h]) (<- basicLines? false rest))
  | _, '\\' :: letter :: rest =>
      if atLineEnd (letter :: rest) then
        basicLines? true rest
      else do
        some (prepend (<- escaped? letter) (<- basicLines? false rest))
  | skipping, character :: rest =>
      if skipping && (isSpace character || character = '\n') then
        basicLines? true rest
      else if (isPlain character || character = '\n') && character ≠ '\\' then
        (basicLines? false rest).map (prepend character)
      else none
  | _, [] => none

/-- The rest of a literal string of several lines. -/
def literalLines? : List Char -> Option (List Char × List Char)
  | '\'' :: '\'' :: '\'' :: rest => some (closeLines '\'' rest)
  | character :: rest =>
      if isPlain character || character = '\n' then
        (literalLines? rest).map (prepend character)
      else none
  | [] => none

/-- A line end right behind the opening quotes does not belong to the string. -/
def dropFirstLineEnd : List Char -> List Char
  | '\n' :: rest => rest
  | text => text

/-- A string of any of the four forms. -/
def string? : List Char -> Option (List Char × List Char)
  | '"' :: '"' :: '"' :: rest => basicLines? false (dropFirstLineEnd rest)
  | '"' :: rest => basicString? rest
  | '\'' :: '\'' :: '\'' :: rest => literalLines? (dropFirstLineEnd rest)
  | '\'' :: rest => literalString? rest
  | _ => none

/-! ## Numbers -/

/-- Digits with single underscores between them, which do not count. -/
def digitGroups? (isDigit : Char -> Bool) : List Char -> Option (List Char)
  | [] => none
  | [digit] => if isDigit digit then some [digit] else none
  | digit :: '_' :: rest =>
      if isDigit digit then (digitGroups? isDigit rest).map (digit :: ·) else none
  | digit :: rest =>
      if isDigit digit then (digitGroups? isDigit rest).map (digit :: ·) else none

/-- The digits of a decimal numeral without leading zeros. -/
def decimal? (word : List Char) : Option (List Char) := do
  let digits <- digitGroups? Char.isDigit word
  if digits.head? = some '0' && 1 < digits.length then none else some digits

/-- The value of digits to a base. -/
def digitsToBase (base : Nat) (digits : List Char) : Nat :=
  digits.foldl (fun total digit => base * total + (Text.hexDigit? digit).getD 0) 0

/-- A numeral to a base, after the letter that announces the base. -/
def basedNumeral? (base : Nat) (word : List Char) : Option Nat :=
  (digitGroups? (fun character => (Text.hexDigit? character).any (· < base)) word).map
    (digitsToBase base)

/-- A sign and what follows it. -/
def signed (word : List Char) : Bool × List Char :=
  match word with
  | '-' :: rest => (true, rest)
  | '+' :: rest => (false, rest)
  | _ => (false, word)

/-- The smallest and the largest integer. -/
def integerBounds : Int × Int := (-0x8000000000000000, 0x7FFFFFFFFFFFFFFF)

/-- A decimal, hexadecimal, octal or binary integer of 64 bits. -/
def integer? (word : List Char) : Option Int := do
  let value : Int <- match word with
    | '0' :: 'x' :: digits => (basedNumeral? 16 digits).map Int.ofNat
    | '0' :: 'o' :: digits => (basedNumeral? 8 digits).map Int.ofNat
    | '0' :: 'b' :: digits => (basedNumeral? 2 digits).map Int.ofNat
    | _ =>
        let (negative, magnitude) := signed word
        (decimal? magnitude).map fun digits =>
          let value : Int := Nat.ofDigitChars 10 digits 0
          if negative then -value else value
  if integerBounds.1 ≤ value ∧ value ≤ integerBounds.2 then some value else none

/-- An exponent: a letter, a sign and digits, or nothing. -/
def exponent? : List Char -> Option Int
  | [] => some 0
  | letter :: rest =>
      if letter = 'e' || letter = 'E' then
        let (negative, magnitude) := signed rest
        (digitGroups? Char.isDigit magnitude).map fun digits =>
          let value : Int := Nat.ofDigitChars 10 digits 0
          if negative then -value else value
      else none

/-- The digits of a number with a fraction or an exponent, and the power of ten that
they are counted in. -/
def realParts? (magnitude : List Char) : Option (List Char × Int) := do
  let isInner (character : Char) := character.isDigit || character = '_'
  let whole <- decimal? (magnitude.takeWhile isInner)
  match magnitude.dropWhile isInner with
  | [] => none
  | '.' :: rest => do
      let fraction <- digitGroups? Char.isDigit (rest.takeWhile isInner)
      let exponent <- exponent? (rest.dropWhile isInner)
      some (whole ++ fraction, exponent - fraction.length)
  | rest => do some (whole, <- exponent? rest)

/-- Whether a word is a number with a fraction or an exponent, or one of the numbers
that have no digits. A positive number that would be rounded to infinity is none. -/
def isReal (word : List Char) : Bool :=
  let (negative, magnitude) := signed word
  if magnitude = ['i', 'n', 'f'] || magnitude = ['n', 'a', 'n'] then true
  else (realParts? magnitude).any fun (digits, power) =>
    negative || !Text.isBeyondDoubles digits power

/-! ## Times -/

/-- A number of exactly so many digits in front of a word. -/
def fixedNumber? (width : Nat) (word : List Char) : Option (Nat × List Char) :=
  let digits := word.take width
  if digits.length = width && digits.all Char.isDigit then
    some (Nat.ofDigitChars 10 digits 0, word.drop width)
  else none

/-- What follows a character that has to come first. -/
def after? (expected : Char) : List Char -> Option (List Char)
  | character :: rest => if character = expected then some rest else none
  | [] => none

/-- What follows a date, which the calendar has to have. -/
def date? (word : List Char) : Option (List Char) := do
  let (year, rest) <- fixedNumber? 4 word
  let (month, rest) <- fixedNumber? 2 (<- after? '-' rest)
  let (day, rest) <- fixedNumber? 2 (<- after? '-' rest)
  if 1 ≤ month ∧ month ≤ 12 ∧ 1 ≤ day ∧ day ≤ daysInMonth year month then some rest else none

/-- What follows an hour and a minute. -/
def hourAndMinute? (word : List Char) : Option (List Char) := do
  let (hour, rest) <- fixedNumber? 2 word
  let (minute, rest) <- fixedNumber? 2 (<- after? ':' rest)
  if hour < 24 ∧ minute < 60 then some rest else none

/-- What follows a time of day with seconds. -/
def time? (word : List Char) : Option (List Char) := do
  let rest <- hourAndMinute? word
  let (second, rest) <- fixedNumber? 2 (<- after? ':' rest)
  if 60 < second then none
  else
    match rest with
    | '.' :: fraction =>
        if fraction.takeWhile Char.isDigit = [] then none
        else some (fraction.dropWhile Char.isDigit)
    | _ => some rest

/-- Whether a word is the offset of a zone, or nothing. -/
def isOffset : List Char -> Bool
  | [] | ['Z'] | ['z'] => true
  | sign :: rest => (sign = '+' || sign = '-') && hourAndMinute? rest = some []

/-- Whether a word is a time of day, or a date that may have a time and an offset. -/
def isMoment (word : List Char) : Bool :=
  time? word = some [] ||
    match date? word with
    | some [] => true
    | some (separator :: rest) =>
        (separator = 'T' || separator = 't' || separator = ' ') && (time? rest).any isOffset
    | none => false

/-! ## Words -/

/-- Whether a character may stand in a word. -/
def isWordCharacter (character : Char) : Bool :=
  character.isAlphanum || ['_', '-', '+', '.', ':'].contains character

/-- A word and what follows it. A time may follow its date after a space. -/
def word (text : List Char) : List Char × List Char :=
  let first := text.takeWhile isWordCharacter
  let rest := text.dropWhile isWordCharacter
  match rest with
  | ' ' :: later =>
      let second := later.takeWhile isWordCharacter
      if date? first = some [] && (time? second).isSome then
        (first ++ ' ' :: second, later.dropWhile isWordCharacter)
      else (first, rest)
  | _ => (first, rest)

/-- The value of a word. A moment is a record of its own kind: it is no text and
has none of the members that a configuration asks for. -/
def ofWord? (word : List Char) : Option Json :=
  if word = ['t', 'r', 'u', 'e'] then some (.bool true)
  else if word = ['f', 'a', 'l', 's', 'e'] then some (.bool false)
  else
    match integer? word with
    | some value => some (.int value)
    | none =>
        if isReal word then some (.real (String.ofList word))
        else if isMoment word then some (.object [("moment", .text (String.ofList word))])
        else none

end Annunciator.Toml
