import Annunciator.Toml.Lexeme
import Annunciator.Toml.Tree

/-!
# TOML documents

A document is read as sections of keys with values, which build one data tree.
Lists and inline tables hold other values; how deep they can be nested is limited,
and so is the length of a dotted key.
-/

namespace Annunciator.Toml

/-- The number of lists and inline tables that can be open at once, and the number
of parts that a key can have. -/
def nestingLimit : Nat := 79

/-! ## Keys -/

/-- Whether a character may stand in a key without quotes. -/
def isBareKeyCharacter (character : Char) : Bool :=
  character.isAlphanum || character = '_' || character = '-'

/-- One part of a key: a word or a string on one line. -/
def keyPart? (text : List Char) : Option (String × List Char) :=
  match text with
  | '"' :: rest => (basicString? rest).map fun (name, rest) => (String.ofList name, rest)
  | '\'' :: rest => (literalString? rest).map fun (name, rest) => (String.ofList name, rest)
  | _ =>
      match text.takeWhile isBareKeyCharacter with
      | [] => none
      | name => some (String.ofList name, text.dropWhile isBareKeyCharacter)

/-- A key of at most so many parts, joined by points, and what follows it. -/
def keyParts? : Nat -> List Char -> Option (List String × List Char)
  | 0, _ => none
  | parts + 1, text => do
      let (name, rest) <- keyPart? (skipSpaces text)
      match skipSpaces rest with
      | '.' :: rest => do
          let (names, rest) <- keyParts? parts rest
          some (name :: names, rest)
      | rest => some ([name], rest)

/-- A key, split into the path to its table and its own name. -/
def key? (text : List Char) : Option ((List String × String) × List Char) := do
  let (names, rest) <- keyParts? nestingLimit text
  let name <- names.getLast?
  some ((names.dropLast, name), rest)

/-! ## Values -/

mutual

/-- A value, where `depth` more lists and inline tables may be opened. The first
number is larger than the steps that the text can take. -/
def value? : Nat -> Nat -> List Char -> Option (Json × List Char)
  | 0, _, _ => none
  | steps + 1, depth, text =>
      match text, depth with
      | '[' :: _, 0 => none
      | '{' :: _, 0 => none
      | '[' :: rest, depth + 1 => do
          let (items, rest) <- items? steps depth (skipFiller rest)
          some (.list items, rest)
      | '{' :: rest, depth + 1 =>
          match skipSpaces rest with
          | '}' :: rest => some (.object [], rest)
          | rest => do
              let (assignments, rest) <- assignments? steps depth rest
              let members <- assignments.foldlM assign? []
              some (.object (membersToJson members), rest)
      | '"' :: _, _ | '\'' :: _, _ => do
          let (characters, rest) <- string? text
          some (.text (String.ofList characters), rest)
      | _, _ => do
          let (first, rest) := word text
          some (<- ofWord? first, rest)

/-- The items of a list up to its end. Line ends and comments may stand between
them, and a comma may follow the last one. -/
def items? : Nat -> Nat -> List Char -> Option (List Json × List Char)
  | 0, _, _ => none
  | steps + 1, depth, text =>
      match text with
      | ']' :: rest => some ([], rest)
      | _ => do
          let (item, rest) <- value? steps depth text
          match skipFiller rest with
          | ',' :: rest => do
              let (items, rest) <- items? steps depth (skipFiller rest)
              some (item :: items, rest)
          | ']' :: rest => some ([item], rest)
          | _ => none

/-- The keys of an inline table up to its end, all on one line. No comma follows
the last one. -/
def assignments? : Nat -> Nat -> List Char -> Option (List Assignment × List Char)
  | 0, _, _ => none
  | steps + 1, depth, text => do
      let ((path, name), rest) <- key? text
      let (value, rest) <- value? steps depth (skipSpaces (<- after? '=' rest))
      match skipSpaces rest with
      | ',' :: rest => do
          let (assignments, rest) <- assignments? steps depth rest
          some (⟨path, name, value⟩ :: assignments, rest)
      | '}' :: rest => some ([⟨path, name, value⟩], rest)
      | _ => none

end

/-- A key with its value, on a line of its own. -/
def assignment? (text : List Char) : Option (Assignment × List Char) := do
  let ((path, name), rest) <- key? text
  let rest := skipSpaces (<- after? '=' rest)
  let (value, rest) <- value? (2 * rest.length + 2) nestingLimit rest
  some (⟨path, name, value⟩, rest)

/-! ## Sections -/

/-- A heading, after its first bracket. Two brackets head one more table of a list. -/
def heading? (text : List Char) : Option (Heading × List Char) :=
  match text with
  | '[' :: rest => do
      let ((path, name), rest) <- key? rest
      some (.element path name, <- after? ']' (<- after? ']' rest))
  | _ => do
      let ((path, name), rest) <- key? text
      some (.table path name, <- after? ']' rest)

/-- The sections of a text, one line after the other. The number is larger than
the number of lines, and `current` holds its keys latest first. -/
def sections? : Nat -> Section -> List Char -> Option (List Section)
  | 0, _, _ => none
  | lines + 1, current, text =>
      let finished : Section := { current with assignments := current.assignments.reverse }
      match skipFiller text with
      | [] => some [finished]
      | '[' :: rest => do
          let (heading, rest) <- heading? rest
          let others <- sections? lines ⟨heading, []⟩ (<- endOfLine? rest)
          some (finished :: others)
      | rest => do
          let (assignment, rest) <- assignment? rest
          sections? lines
            { current with assignments := assignment :: current.assignments }
            (<- endOfLine? rest)

/-- A mark of the byte order in front of a text says nothing. -/
def skipByteOrderMark : List Char -> List Char
  | '\uFEFF' :: rest => rest
  | text => text

/-- The data tree that a document describes. -/
def document? (text : String) : Option Json := do
  let characters <- unifyLineEnds? (skipByteOrderMark text.toList)
  let sections <- sections? (characters.length + 1) ⟨.top, []⟩ characters
  let members <- ofSections? sections
  some (.object (membersToJson members))

end Annunciator.Toml
