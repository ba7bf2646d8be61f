/-!
# Hexadecimal bytes

Bytes in texts are pairs of hexadecimal digits, written in lower case and read
in either.
-/

namespace Annunciator.Text

/-- The two lower-case digits of a byte. -/
def hexByte (byte : UInt8) : List Char :=
  [Nat.digitChar (byte.toNat / 16), Nat.digitChar (byte.toNat % 16)]

/-- The value of a hexadecimal digit. -/
def hexDigit? (character : Char) : Option Nat :=
  if '0' ≤ character ∧ character ≤ '9' then some (character.toNat - '0'.toNat)
  else if 'a' ≤ character ∧ character ≤ 'f' then some (character.toNat - 'a'.toNat + 10)
  else if 'A' ≤ character ∧ character ≤ 'F' then some (character.toNat - 'A'.toNat + 10)
  else none

/-- Read a text of hexadecimal pairs as bytes. -/
def hexBytes? : List Char -> Option (List UInt8)
  | [] => some []
  | [_] => none
  | high :: low :: rest => do
      let byte := 16 * (<- hexDigit? high) + (<- hexDigit? low)
      some (UInt8.ofNat byte :: (<- hexBytes? rest))

end Annunciator.Text
