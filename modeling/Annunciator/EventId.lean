import Annunciator.Json.Form
import Annunciator.Text.Hex

/-!
# Event identifiers

Events on the bus are told apart by identifiers of sixteen bytes. An identifier is
written as five groups of hexadecimal digits joined by dashes. It is read in that
form, bare, in braces or as a `urn:uuid:` name, and also as 32 digits in a row.
Letters are read in either case.
-/

namespace Annunciator

open Text

/-- The identifier of an event. -/
structure EventId where
  bytes : Vector UInt8 16
  deriving DecidableEq, Repr

namespace EventId

/-- The lengths of the groups of digits. -/
def groups : List Nat := [8, 4, 4, 4, 12]

/-- Put dashes between groups of the given lengths. -/
def joinGroups : List Nat -> List Char -> List Char
  | [], _ => []
  | [length], digits => digits.take length
  | length :: rest, digits =>
      digits.take length ++ '-' :: joinGroups rest (digits.drop length)

/-- Take away the dashes between groups of the given lengths. -/
def splitGroups? : List Nat -> List Char -> Option (List Char)
  | [], [] => some []
  | [], _ :: _ => none
  | [length], text => if text.length = length then some text else none
  | length :: rest, text =>
      match text.drop length with
      | '-' :: others => (splitGroups? rest others).map (text.take length ++ ·)
      | _ => none

/-- The written form of an identifier. -/
def display (id : EventId) : String :=
  String.ofList (joinGroups groups (id.bytes.toList.flatMap hexByte))

/-- Read sixteen bytes in a row. -/
def ofDigits? (digits : List Char) : Option EventId := do
  let bytes <- hexBytes? digits
  if length : bytes.length = 16 then
    some ⟨⟨bytes.toArray, by simpa using length⟩⟩
  else none

/-- Read five groups of digits. -/
def ofGroups? (text : List Char) : Option EventId :=
  (splitGroups? groups text).bind ofDigits?

/-- What announces an identifier as a name. -/
def nameMark : List Char := ['u', 'r', 'n', ':', 'u', 'u', 'i', 'd', ':']

/-- Read an identifier in any of its forms. -/
def ofWritten? (text : List Char) : Option EventId :=
  match text with
  | '{' :: braced => if braced.getLast? = some '}' then ofGroups? braced.dropLast else none
  | _ =>
      if (text.take nameMark.length).map Char.toLower = nameMark then
        ofGroups? (text.drop nameMark.length)
      else if text.length = 32 then ofDigits? text
      else ofGroups? text

instance : JsonForm EventId where
  toJson id := .text id.display
  ofJson?
    | .text value => ofWritten? value.toList
    | _ => none

end EventId

end Annunciator
