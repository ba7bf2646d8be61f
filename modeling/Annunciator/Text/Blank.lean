/-!
# White space

The characters with the White_Space property, by the ranges in which the
property holds. Text around the fields of a written time may be padded with any
of them.
-/

namespace Annunciator.Text

/-- The code points with the White_Space property, as inclusive ranges. -/
def blankRanges : List (Nat × Nat) :=
  [(0x0009, 0x000D), (0x0020, 0x0020), (0x0085, 0x0085), (0x00A0, 0x00A0),
   (0x1680, 0x1680), (0x2000, 0x200A), (0x2028, 0x2029), (0x202F, 0x202F),
   (0x205F, 0x205F), (0x3000, 0x3000)]

/-- Whether a character is white space. -/
def isBlank (character : Char) : Bool :=
  blankRanges.any fun range =>
    range.1 ≤ character.toNat && character.toNat ≤ range.2

/-- Drop the white space in front of a text. -/
def skipBlanks (text : List Char) : List Char := text.dropWhile isBlank

/-- Every range of white space lies below or above the decimal digits. -/
theorem blankRanges_beside_digits :
    ∀ range ∈ blankRanges, range.2 < '0'.toNat ∨ '9'.toNat < range.1 := by
  decide

/-- No decimal digit is white space. -/
theorem isBlank_eq_false_of_isDigit {character : Char} (digit : character.isDigit) :
    isBlank character = false := by
  simp only [Char.isDigit, Bool.and_eq_true, decide_eq_true_eq] at digit
  have bounds : '0'.toNat ≤ character.toNat ∧ character.toNat ≤ '9'.toNat :=
    ⟨UInt32.le_iff_toNat_le.mp digit.1, UInt32.le_iff_toNat_le.mp digit.2⟩
  refine List.any_eq_false.mpr fun range member => ?_
  have beside := blankRanges_beside_digits range member
  simp only [Bool.and_eq_true, decide_eq_true_eq]
  omega

/-- Text that starts with no white space keeps all of its characters. -/
theorem skipBlanks_cons_of_not_blank {character : Char} (notBlank : isBlank character = false)
    (rest : List Char) : skipBlanks (character :: rest) = character :: rest := by
  simp [skipBlanks, notBlank]

end Annunciator.Text
