import Annunciator.Json.Basic
import Annunciator.Text.Decimal
import Annunciator.Text.Hex

/-!
# Written data trees

Trees travel as lines of text. Strings are written with as few escapes as possible
and read with any of them. A number is an integer if it is written as one and fits
64 bits, with or without a sign; every other number stays what was written, as long
as it is within the range of doubles. Lists and objects are read to a limited depth.
-/

namespace Annunciator.Json

open Text (hexByte hexDigit? isBeyondDoubles)

/-! ## Writing -/

/-- The characters that stand for a character of a string. -/
def escaped (character : Char) : List Char :=
  if character = '"' || character = '\\' then ['\\', character]
  else if character < ' ' then
    ['\\', 'u', '0', '0'] ++ hexByte (UInt8.ofNat character.toNat)
  else [character]

/-- A string in its quotes. -/
def quoted (value : String) : String :=
  String.ofList ('"' :: value.toList.flatMap escaped ++ ['"'])

/-- The text of a tree, on one line and without spaces. -/
def written : Json -> String
  | null => "null"
  | bool value => if value then "true" else "false"
  | int value => toString value
  | real lexeme => lexeme
  | text value => quoted value
  | list items =>
      "[" ++ ",".intercalate (items.attach.map fun item => item.1.written) ++ "]"
  | object members =>
      let assignments := members.attach.map fun member =>
        quoted member.1.1 ++ ":" ++ member.1.2.written
      "\x7b" ++ ",".intercalate assignments ++ "\x7d"
termination_by tree => sizeOf tree
decreasing_by
  · have := List.sizeOf_lt_of_mem item.2
    simp
    omega
  · have := List.sizeOf_lt_of_mem member.2
    obtain ⟨⟨name, value⟩, _⟩ := member
    simp at *
    omega

/-! ## Reading -/

/-- Drop the white space between the parts of a tree. -/
def skipSpaces (characters : List Char) : List Char :=
  characters.dropWhile ([' ', '\t', '\n', '\r'].contains ·)

/-- What follows a word that has to come first. -/
def word? (word characters : List Char) : Option (List Char) :=
  if word.isPrefixOf characters then some (characters.drop word.length) else none

/-! ### Numbers -/

/-- Whether a character may stand in a number. -/
def isNumberCharacter (character : Char) : Bool :=
  character.isDigit || ['+', '-', '.', 'e', 'E'].contains character

/-- The digits in front of a lexeme, of which there has to be one. -/
def digits? (lexeme : List Char) : Option (List Char × List Char) :=
  match lexeme.takeWhile Char.isDigit with
  | [] => none
  | digits => some (digits, lexeme.dropWhile Char.isDigit)

/-- A fraction in front of a lexeme, if a point announces one. -/
def fraction? : List Char -> Option (List Char × List Char)
  | '.' :: rest => digits? rest
  | lexeme => some ([], lexeme)

/-- An exponent that is a whole lexeme, or none at all. -/
def exponent? : List Char -> Option Int
  | [] => some 0
  | letter :: rest =>
      if letter = 'e' || letter = 'E' then do
        let (negative, magnitude) := match rest with
          | '-' :: magnitude => (true, magnitude)
          | '+' :: magnitude => (false, magnitude)
          | magnitude => (false, magnitude)
        let (digits, rest) <- digits? magnitude
        let value : Int := Nat.ofDigitChars 10 digits 0
        if rest = [] then some (if negative then -value else value) else none
      else none

/-- Whether an integer fits 64 bits, with or without a sign. -/
def fitsInteger (value : Int) : Bool :=
  -0x8000000000000000 ≤ value && value ≤ 0xFFFFFFFFFFFFFFFF

/-- The number that a lexeme stands for. Zero with a minus sign is no integer. -/
def number? (lexeme : List Char) : Option Json := do
  let (negative, magnitude) := match lexeme with
    | '-' :: magnitude => (true, magnitude)
    | magnitude => (false, magnitude)
  let (whole, rest) <- digits? magnitude
  if whole.head? = some '0' && 1 < whole.length then none
  if rest = [] then
    let size : Int := Nat.ofDigitChars 10 whole 0
    let value := if negative then -size else size
    if fitsInteger value && !(negative && value = 0) then some (int value)
    else if isBeyondDoubles whole 0 then none
    else some (real (String.ofList (lexeme ++ ['.', '0'])))
  else do
    let (fraction, rest) <- fraction? rest
    let exponent <- exponent? rest
    if isBeyondDoubles (whole ++ fraction) (exponent - fraction.length) then none
    else some (real (String.ofList lexeme))

/-! ### Strings -/

/-- The number that hexadecimal digits stand for. -/
def codeUnit? (digits : List Char) : Option Nat := do
  let values <- digits.mapM hexDigit?
  some (values.foldl (fun total digit => 16 * total + digit) 0)

/-- The character that two code units stand for together. -/
def pairedCharacter? (first second : Nat) : Option Char :=
  if 0xD800 ≤ first && first < 0xDC00 && 0xDC00 ≤ second && second < 0xE000 then
    some (Char.ofNat (0x10000 + 1024 * (first - 0xD800) + (second - 0xDC00)))
  else none

/-- The character that a one-letter escape stands for. -/
def unescaped? : Char -> Option Char
  | '"' => some '"'
  | '\\' => some '\\'
  | '/' => some '/'
  | 'b' => some '\x08'
  | 'f' => some '\x0c'
  | 'n' => some '\n'
  | 'r' => some '\r'
  | 't' => some '\t'
  | _ => none

/-- The rest of a string, whose characters so far are `read`, latest first. -/
def stringFrom? (read : List Char) : List Char -> Option (String × List Char)
  | [] => none
  | '"' :: rest => some (String.ofList read.reverse, rest)
  | '\\' :: 'u' :: a :: b :: c :: d :: rest =>
      match codeUnit? [a, b, c, d] with
      | none => none
      | some first =>
          if first.isValidChar then stringFrom? (Char.ofNat first :: read) rest
          else
            match rest with
            | '\\' :: 'u' :: e :: f :: g :: h :: rest =>
                match (codeUnit? [e, f, g, h]).bind (pairedCharacter? first) with
                | none => none
                | some character => stringFrom? (character :: read) rest
            | _ => none
  | '\\' :: letter :: rest =>
      match unescaped? letter with
      | none => none
      | some character => stringFrom? (character :: read) rest
  | character :: rest =>
      if character = '\\' || character < ' ' then none
      else stringFrom? (character :: read) rest

/-! ### Trees -/

/-- Put a member in front of those that follow it. Of two members with one name the
later one counts. -/
def addMember (name : String) (value : Json) (members : List (String × Json)) :
    List (String × Json) :=
  if (memberOf? name members).isSome then members else (name, value) :: members

/-- How deep lists and objects may lie in each other. -/
def deepestLevel : Nat := 127

mutual

/-- A tree and what follows it. The first number is larger than the steps that the text
can take; the second one says how many levels the tree may have. -/
def tree? : Nat -> Nat -> List Char -> Option (Json × List Char)
  | 0, _, _ => none
  | steps + 1, levels, characters =>
      match characters, levels with
      | '"' :: rest, _ => (stringFrom? [] rest).map fun (value, rest) => (.text value, rest)
      | '[' :: _, 0 => none
      | '[' :: rest, levels + 1 =>
          match skipSpaces rest with
          | ']' :: rest => some (list [], rest)
          | rest => (items? steps levels rest).map fun (items, rest) => (list items, rest)
      | '\x7b' :: _, 0 => none
      | '\x7b' :: rest, levels + 1 =>
          match skipSpaces rest with
          | '\x7d' :: rest => some (object [], rest)
          | rest =>
              (membersOf? steps levels rest).map fun (members, rest) => (object members, rest)
      | 'n' :: _, _ => (word? ['n', 'u', 'l', 'l'] characters).map fun rest => (null, rest)
      | 't' :: _, _ => (word? ['t', 'r', 'u', 'e'] characters).map fun rest => (bool true, rest)
      | 'f' :: _, _ =>
          (word? ['f', 'a', 'l', 's', 'e'] characters).map fun rest => (bool false, rest)
      | _, _ => do
          let value <- number? (characters.takeWhile isNumberCharacter)
          some (value, characters.dropWhile isNumberCharacter)

/-- The items of a list up to its end. -/
def items? : Nat -> Nat -> List Char -> Option (List Json × List Char)
  | 0, _, _ => none
  | steps + 1, levels, characters => do
      let (item, rest) <- tree? steps levels (skipSpaces characters)
      match skipSpaces rest with
      | ',' :: rest => do
          let (items, rest) <- items? steps levels rest
          some (item :: items, rest)
      | ']' :: rest => some ([item], rest)
      | _ => none

/-- The members of an object up to its end. -/
def membersOf? : Nat -> Nat -> List Char -> Option (List (String × Json) × List Char)
  | 0, _, _ => none
  | steps + 1, levels, characters => do
      let (name, rest) <- stringFrom? [] (<- word? ['"'] (skipSpaces characters))
      let (value, rest) <- tree? steps levels (skipSpaces (<- word? [':'] (skipSpaces rest)))
      match skipSpaces rest with
      | ',' :: rest => do
          let (members, rest) <- membersOf? steps levels rest
          some (addMember name value members, rest)
      | '\x7d' :: rest => some ([(name, value)], rest)
      | _ => none

end

/-- The tree that a whole text describes. -/
def ofWritten? (line : String) : Option Json := do
  let characters := line.toList
  let (tree, rest) <- tree? (2 * characters.length + 2) deepestLevel (skipSpaces characters)
  if skipSpaces rest = [] then some tree else none

end Annunciator.Json
