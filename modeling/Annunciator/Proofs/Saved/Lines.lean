import Annunciator.Json.Written
import Mathlib.Data.List.DropRight
import Mathlib.Data.List.TakeWhile

/-!
# Written trees read back

A tree is written on a line and read from it again. Reading counts its steps and its levels, so
it has to be shown that neither runs out: two steps for every character of a text are enough for
it, and how deep a tree lies is known before it is written. Every part of a tree is read up to
where it ends and leaves what follows, so that the parts can be read one after the other.
-/

namespace Annunciator.Json

open Text

/-! ## Numbers -/

section Numbers

/-- Only the digit 0 is written as a zero. -/
theorem digitChar_ne_zero : ∀ digit < 10, 0 < digit -> Nat.digitChar digit ≠ '0' := by
  decide

variable (number : Nat)

/-- Numerals have no zeros in front. -/
theorem head?_toDigits_ne_zero (positive : 0 < number) :
    (Nat.toDigits 10 number).head? ≠ some '0' := by
  induction number using Nat.strong_induction_on with
  | _ number inductionHypothesis =>
      rw [Nat.toDigits_eq_if (by decide)]
      split
      next small => simpa using digitChar_ne_zero number small positive
      next large =>
        have shorter := inductionHypothesis (number / 10) (by omega) (by omega)
        cases digits : Nat.toDigits 10 (number / 10) with
        | nil => exact absurd digits Nat.toDigits_ne_nil
        | cons digit rest => rwa [digits] at shorter

/-- A numeral that starts with a zero is this zero and nothing else. -/
theorem length_toDigits_of_zero_ahead (ahead : (Nat.toDigits 10 number).head? = some '0') :
    (Nat.toDigits 10 number).length ≤ 1 := by
  rcases Nat.eq_zero_or_pos number with rfl | positive
  · decide
  · exact absurd ahead (head?_toDigits_ne_zero number positive)

theorem isDigit_of_mem_toDigits {character : Char} (member : character ∈ Nat.toDigits 10 number) :
    character.isDigit :=
  Nat.isDigit_of_mem_toDigits (by decide) (by decide) member

/-- All of a numeral is taken in as digits. -/
theorem digits?_toDigits :
    digits? (Nat.toDigits 10 number) = some (Nat.toDigits 10 number, []) := by
  have all : ∀ digit ∈ Nat.toDigits 10 number, digit.isDigit :=
    fun _ member => isDigit_of_mem_toDigits number member
  rw [digits?, List.takeWhile_eq_self_iff.mpr all, List.dropWhile_eq_nil_iff.mpr all]
  split
  next none => exact absurd none Nat.toDigits_ne_nil
  next => rfl

variable {number}

/-- A numeral without a sign is read as its number. -/
theorem number?_toDigits (fits : fitsInteger number = true) :
    number? (Nat.toDigits 10 number) = some (int number) := by
  unfold number?
  split
  next negative magnitude signed =>
    split at signed
    next minus =>
      -- No sign is taken off: what a numeral starts with is a digit.
      have digit := isDigit_of_mem_toDigits number (by rw [minus]; exact List.mem_cons_self)
      exact absurd digit (by decide)
    next =>
      obtain ⟨rfl, rfl⟩ := Prod.mk.inj signed
      simpa [digits?_toDigits, Nat.ofDigitChars_ten_toDigits, fits] using
        length_toDigits_of_zero_ahead number

/-- A numeral with a minus in front is read as the negative number. -/
theorem number?_minus_toDigits (positive : 0 < number) (fits : fitsInteger (-number) = true) :
    number? ('-' :: Nat.toDigits 10 number) = some (int (-number)) := by
  simpa [number?, digits?_toDigits, Nat.ofDigitChars_ten_toDigits, fits, Nat.ne_of_gt positive]
    using length_toDigits_of_zero_ahead number

theorem toList_toString_ofNat (number : Nat) :
    (toString (Int.ofNat number)).toList = Nat.toDigits 10 number := by
  rw [Int.toString_eq_repr, Int.repr, Nat.toList_repr]

theorem toList_toString_negSucc (number : Nat) :
    (toString (Int.negSucc number)).toList = '-' :: Nat.toDigits 10 (number + 1) := by
  rw [Int.toString_eq_repr, Int.repr, String.toList_append, Nat.toList_repr]
  rfl

/-- An integer of 64 bits is read as it was written. -/
theorem number?_toString {value : Int} (fits : fitsInteger value = true) :
    number? (toString value).toList = some (int value) := by
  cases value with
  | ofNat number =>
      rw [toList_toString_ofNat]
      exact number?_toDigits fits
  | negSucc number =>
      rw [toList_toString_negSucc]
      exact number?_minus_toDigits number.succ_pos fits

/-- An integer is written in characters that numbers are made of. -/
theorem isNumberCharacter_of_mem_toString {value : Int} {character : Char}
    (member : character ∈ (toString value).toList) : isNumberCharacter character := by
  cases value with
  | ofNat number =>
      rw [toList_toString_ofNat] at member
      simp [isNumberCharacter, isDigit_of_mem_toDigits number member]
  | negSucc number =>
      rw [toList_toString_negSucc] at member
      cases member with
      | head => decide
      | tail _ member => simp [isNumberCharacter, isDigit_of_mem_toDigits _ member]

end Numbers

/-! ## Strings -/

section Strings

/-- Every control character is read from the hexadecimal digits that it is written in. -/
theorem codeUnit?_control : ∀ number < 32,
    codeUnit? (['0', '0'] ++ hexByte (UInt8.ofNat number)) = some number := by
  decide

/-- However a character is written, it is read as the next one of the string. -/
theorem stringFrom?_escaped_append (read : List Char) (character : Char) (rest : List Char) :
    stringFrom? read (escaped character ++ rest) = stringFrom? (character :: read) rest := by
  unfold escaped
  split
  next special =>
    simp only [Bool.or_eq_true, decide_eq_true_eq] at special
    rcases special with rfl | rfl <;> simp [stringFrom?, unescaped?]
  next ordinary =>
    split
    next control =>
      have unit := codeUnit?_control character.toNat control
      have valid : character.toNat.isValidChar := character.valid
      simp only [hexByte, List.cons_append, List.nil_append] at unit ⊢
      rw [stringFrom?, unit]
      simp only [valid, if_true, Char.ofNat_toNat]
    next printable =>
      simp only [Bool.or_eq_true, decide_eq_true_eq, not_or] at ordinary
      rw [List.singleton_append, stringFrom?, if_neg]
      <;> simp [ordinary, printable]

/-- A string is read up to its closing quote. -/
theorem stringFrom?_escaped (value rest read : List Char) :
    stringFrom? read (value.flatMap escaped ++ '"' :: rest) =
      some (String.ofList (read.reverse ++ value), rest) := by
  induction value generalizing read with
  | nil => simp [stringFrom?]
  | cons character value inductionHypothesis =>
      rw [List.flatMap_cons, List.append_assoc, stringFrom?_escaped_append, inductionHypothesis]
      simp

end Strings

/-! ## Texts of lists and objects -/

section Texts

/-- Texts one after the other, with commas between them. -/
def separated (parts : List (List Char)) : List Char := [','].intercalate parts

@[simp] theorem separated_nil : separated [] = [] := rfl

@[simp] theorem separated_singleton (part : List Char) : separated [part] = part := by
  simp [separated]

@[simp] theorem separated_cons_cons (part next : List Char) (parts : List (List Char)) :
    separated (part :: next :: parts) = part ++ ',' :: separated (next :: parts) := by
  simp [separated, List.intercalate_cons_cons]

/-- The text of a member of an object. -/
def assignment (member : String × Json) : List Char :=
  (quoted member.1).toList ++ ':' :: member.2.written.toList

/-- A member takes no less room than its value, so steps that are enough for it are enough for
the value. -/
theorem length_written_le_assignment (member : String × Json) :
    member.2.written.toList.length ≤ (assignment member).length := by
  rw [assignment, List.length_append, List.length_cons]
  omega

/-- A list is written in brackets, with commas between its items. -/
theorem toList_written_list (items : List Json) :
    (list items).written.toList =
      '[' :: (separated (items.map (·.written.toList)) ++ [']']) := by
  rw [written]
  simp [separated, List.attach_map_val (f := written), Function.comp_def]

/-- An object is written in braces, with commas between its members. -/
theorem toList_written_object (members : List (String × Json)) :
    (object members).written.toList =
      '\x7b' :: (separated (members.map assignment) ++ ['\x7d']) := by
  rw [written]
  simp [separated, Function.comp_def, List.attach_map_val
    (f := fun member : String × Json => quoted member.1 ++ ":" ++ member.2.written)]
  rfl

end Texts

/-! ## One step -/

section Step

variable {steps levels : Nat} {characters following rest : List Char}

/-- In front of a visible character nothing is skipped. -/
theorem skipSpaces_cons {character : Char}
    (visible : [' ', '\t', '\n', '\r'].contains character = false) :
    skipSpaces (character :: rest) = character :: rest := by
  rw [skipSpaces, List.dropWhile_cons_of_neg]
  simp only [visible, Bool.false_eq_true, not_false_eq_true]

/-- No tree starts with a blank or with the end of a list. -/
theorem tree?_cons_eq_none {character : Char} (blank : character ∈ [' ', '\t', '\n', '\r', ']']) :
    tree? steps levels (character :: rest) = none := by
  cases steps with
  | zero => rfl
  | succ steps =>
      simp only [List.mem_cons, List.not_mem_nil, or_false] at blank
      rcases blank with rfl | rfl | rfl | rfl | rfl <;>
        simp [tree?, isNumberCharacter, number?, digits?]

/-- A text that a tree is read from has no blanks in front. -/
theorem skipSpaces_of_tree? {found : Json × List Char}
    (read : tree? steps levels characters = some found) : skipSpaces characters = characters := by
  cases characters with
  | nil => rfl
  | cons character rest =>
      have opens : character ∉ [' ', '\t', '\n', '\r', ']'] := by
        intro blank
        rw [tree?_cons_eq_none blank] at read
        exact absurd read nofun
      simp only [List.mem_cons, List.not_mem_nil, or_false, not_or] at opens
      exact skipSpaces_cons (by simp [opens])

/-- What starts like a number is read as one, as far as its characters go. -/
theorem tree?_number {first : Char} (number : isNumberCharacter first) :
    tree? (steps + 1) levels (first :: rest) =
      (number? ((first :: rest).takeWhile isNumberCharacter)).map
        (·, (first :: rest).dropWhile isNumberCharacter) := by
  have noOther : ∀ {other : Char} {following : List Char}, first :: rest = other :: following ->
      isNumberCharacter other = false -> False := by
    rintro _ _ ⟨⟩ other
    rw [other] at number
    exact absurd number nofun
  rw [tree?]
  · rw [Option.map_eq_bind]
    rfl
  -- Every other kind of tree starts with a character that stands in no number.
  all_goals
    intros
    exact noOther ‹first :: rest = _› (by decide)

/-! ### Lists -/

section Lists

variable {item : Json} {items : List Json}

/-- An item in front of the closing bracket is the last one. -/
theorem items?_last (read : tree? steps levels characters = some (item, ']' :: rest)) :
    items? (steps + 1) levels characters = some ([item], rest) := by
  simp [items?, skipSpaces_of_tree? read, read, skipSpaces_cons]

/-- An item in front of a comma is followed by the others. -/
theorem items?_more (read : tree? steps levels characters = some (item, ',' :: following))
    (others : items? steps levels following = some (items, rest)) :
    items? (steps + 1) levels characters = some (item :: items, rest) := by
  simp [items?, skipSpaces_of_tree? read, read, skipSpaces_cons, others]

/-- Blanks in front of the items make no difference. -/
theorem items?_skipSpaces :
    items? steps levels (skipSpaces characters) = items? steps levels characters := by
  cases steps with
  | zero => rfl
  | succ steps => simp only [items?, skipSpaces, List.dropWhile_idempotent]

/-- No item starts with the closing bracket. -/
theorem items?_closing : items? steps levels (']' :: rest) = none := by
  cases steps with
  | zero => rfl
  | succ steps => simp [items?, skipSpaces_cons, tree?_cons_eq_none]

/-- A list is read from what its items are read from. -/
theorem tree?_list (read : items? steps levels characters = some (items, rest)) :
    tree? (steps + 1) (levels + 1) ('[' :: characters) = some (list items, rest) := by
  rw [← items?_skipSpaces] at read
  rw [tree?]
  split
  next closed =>
    rw [closed, items?_closing] at read
    exact absurd read nofun
  next =>
    rw [read]
    rfl

end Lists

/-! ### Objects -/

section Objects

/-- A name that no member has is not found. -/
theorem memberOf?_eq_none {name : String} {members : List (String × Json)}
    (missing : name ∉ members.map Prod.fst) : memberOf? name members = none := by
  induction members with
  | nil => rfl
  | cons member members inductionHypothesis =>
      rw [List.map_cons, List.mem_cons, not_or] at missing
      rw [memberOf?_cons_ne (Ne.symm missing.1), inductionHypothesis missing.2]

variable {member : String × Json} {members : List (String × Json)}

/-- A member in front of the closing brace is the last one. -/
theorem membersOf?_last
    (read : tree? steps levels (member.2.written.toList ++ '\x7d' :: rest) =
      some (member.2, '\x7d' :: rest)) :
    membersOf? (steps + 1) levels (assignment member ++ '\x7d' :: rest) =
      some ([member], rest) := by
  simp [membersOf?, assignment, quoted, word?, stringFrom?_escaped, skipSpaces_cons,
    skipSpaces_of_tree? read, read]

/-- A member in front of a comma is followed by the others, as long as none of them has its
name. -/
theorem membersOf?_more (unnamed : memberOf? member.1 members = none)
    (read : tree? steps levels (member.2.written.toList ++ ',' :: following) =
      some (member.2, ',' :: following))
    (others : membersOf? steps levels following = some (members, rest)) :
    membersOf? (steps + 1) levels (assignment member ++ ',' :: following) =
      some (member :: members, rest) := by
  simp [membersOf?, assignment, quoted, word?, stringFrom?_escaped, skipSpaces_cons,
    skipSpaces_of_tree? read, read, others, addMember, unnamed]

/-- Blanks in front of the members make no difference. -/
theorem membersOf?_skipSpaces :
    membersOf? steps levels (skipSpaces characters) = membersOf? steps levels characters := by
  cases steps with
  | zero => rfl
  | succ steps => simp only [membersOf?, skipSpaces, List.dropWhile_idempotent]

/-- No member starts with the closing brace. -/
theorem membersOf?_closing : membersOf? steps levels ('\x7d' :: rest) = none := by
  cases steps with
  | zero => rfl
  | succ steps => simp [membersOf?, word?, skipSpaces_cons]

/-- An object is read from what its members are read from. -/
theorem tree?_object (read : membersOf? steps levels characters = some (members, rest)) :
    tree? (steps + 1) (levels + 1) ('\x7b' :: characters) = some (object members, rest) := by
  rw [← membersOf?_skipSpaces] at read
  rw [tree?]
  split
  next closed =>
    rw [closed, membersOf?_closing] at read
    exact absurd read nofun
  next =>
    rw [read]
    rfl

end Objects

end Step

/-! ## Trees -/

/-- Whether a text goes on with nothing that a number in front of it would take in. -/
def Stops (rest : List Char) : Prop :=
  ∀ character ∈ rest.head?, isNumberCharacter character = false

/-- A character that is in no number ends the number in front of it. -/
theorem stops_cons {character : Char} (outside : isNumberCharacter character = false)
    (rest : List Char) : Stops (character :: rest) := by
  rintro _ ⟨⟩
  exact outside

/-- A tree is read from its text and leaves what follows, if there are two steps for every
character. -/
def Reads (levels : Nat) (tree : Json) : Prop :=
  ∀ ⦃steps : Nat⦄ ⦃rest : List Char⦄, 2 * tree.written.toList.length ≤ steps -> Stops rest ->
    tree? steps levels (tree.written.toList ++ rest) = some (tree, rest)

/-- A text that is not empty pays for the first step. -/
theorem Reads.of_cons {levels : Nat} {tree : Json} {first : Char} {following : List Char}
    (spelled : tree.written.toList = first :: following)
    (read : ∀ ⦃steps rest⦄, 2 * following.length < steps -> Stops rest ->
      tree? (steps + 1) levels (first :: following ++ rest) = some (tree, rest)) :
    Reads levels tree := by
  intro steps rest enough stops
  rw [spelled] at enough ⊢
  rw [List.length_cons] at enough
  obtain ⟨fewer, rfl⟩ : ∃ fewer, steps = fewer + 1 := ⟨steps - 1, by omega⟩
  exact read (by omega) stops

section Scalars

variable {levels : Nat}

/-- The null is read back. -/
theorem reads_null : Reads levels null := by
  have spelled : null.written.toList = ['n', 'u', 'l', 'l'] := by
    rw [written]
    rfl
  refine Reads.of_cons spelled fun _ rest _ _ => ?_
  simp [tree?, word?]

/-- Both truth values are read back. -/
theorem reads_bool (value : Bool) : Reads levels (bool value) := by
  cases value with
  | true =>
      have spelled : (bool true).written.toList = ['t', 'r', 'u', 'e'] := by
        rw [written]
        rfl
      refine Reads.of_cons spelled fun _ rest _ _ => ?_
      simp [tree?, word?]
  | false =>
      have spelled : (bool false).written.toList = ['f', 'a', 'l', 's', 'e'] := by
        rw [written]
        rfl
      refine Reads.of_cons spelled fun _ rest _ _ => ?_
      simp [tree?, word?]

/-- A string is read back, whatever characters it has. -/
theorem reads_text (value : String) : Reads levels (text value) := by
  have spelled : (text value).written.toList = '"' :: (value.toList.flatMap escaped ++ ['"']) := by
    rw [written, quoted, String.toList_ofList, List.cons_append]
  refine Reads.of_cons spelled fun _ rest _ _ => ?_
  simp [tree?, stringFrom?_escaped]

/-- An integer is read back if it has no more than 64 bits. -/
theorem reads_int {value : Int} (fits : fitsInteger value = true) : Reads levels (int value) := by
  have all : ∀ character ∈ (toString value).toList, isNumberCharacter character :=
    fun _ => isNumberCharacter_of_mem_toString
  cases spelled : (toString value).toList with
  | nil =>
      have read := number?_toString fits
      rw [spelled] at read
      exact absurd read nofun
  | cons first following =>
      refine Reads.of_cons (by rw [written, spelled]) fun _ rest _ stops => ?_
      -- The numeral is all that is taken in as a number.
      have behind : rest.takeWhile isNumberCharacter = [] ∧
          rest.dropWhile isNumberCharacter = rest := by
        cases rest with
        | nil => exact ⟨rfl, rfl⟩
        | cons character rest => simp [stops character rfl]
      rw [List.cons_append, tree?_number (all first (by rw [spelled]; exact List.mem_cons_self)),
        ← List.cons_append, ← spelled, List.takeWhile_append_of_pos all, behind.1,
        List.append_nil, List.dropWhile_append_of_pos all, behind.2, number?_toString fits]
      rfl

end Scalars

section Collections

variable {levels steps : Nat} {rest : List Char}

/-- Items are read one after the other, if each of them is read. -/
theorem items?_separated {item : Json} {items : List Json}
    (reads : ∀ member ∈ item :: items, Reads levels member)
    (enough : 2 * (separated ((item :: items).map (·.written.toList))).length ≤ steps) :
    items? (steps + 1) levels
        (separated ((item :: items).map (·.written.toList)) ++ ']' :: rest) =
      some (item :: items, rest) := by
  have read := reads item List.mem_cons_self
  induction items generalizing item steps with
  | nil =>
      simp only [List.map_cons, List.map_nil, separated_singleton] at enough ⊢
      exact items?_last (read enough (stops_cons rfl rest))
  | cons next items inductionHypothesis =>
      simp only [List.map_cons, separated_cons_cons, List.length_append, List.length_cons,
        List.append_assoc, List.cons_append] at enough inductionHypothesis ⊢
      obtain ⟨fewer, rfl⟩ : ∃ fewer, steps = fewer + 1 := ⟨steps - 1, by omega⟩
      refine items?_more (read (by omega) (stops_cons rfl _)) (inductionHypothesis ?_ ?_ ?_)
      · exact fun member listed => reads member (List.mem_cons_of_mem _ listed)
      · omega
      · exact reads next (by simp)

/-- Members are read one after the other, if their names differ and each value is read. -/
theorem membersOf?_separated {member : String × Json} {members : List (String × Json)}
    (distinct : ((member :: members).map Prod.fst).Nodup)
    (reads : ∀ other ∈ member :: members, Reads levels other.2)
    (enough : 2 * (separated ((member :: members).map assignment)).length ≤ steps) :
    membersOf? (steps + 1) levels
        (separated ((member :: members).map assignment) ++ '\x7d' :: rest) =
      some (member :: members, rest) := by
  have read := reads member List.mem_cons_self
  have shorter := length_written_le_assignment member
  rw [List.map_cons, List.nodup_cons] at distinct
  induction members generalizing member steps with
  | nil =>
      simp only [List.map_cons, List.map_nil, separated_singleton] at enough ⊢
      exact membersOf?_last (read (by omega) (stops_cons rfl rest))
  | cons next members inductionHypothesis =>
      simp only [List.map_cons, separated_cons_cons, List.length_append, List.length_cons,
        List.append_assoc, List.cons_append] at enough inductionHypothesis ⊢
      obtain ⟨fewer, rfl⟩ : ∃ fewer, steps = fewer + 1 := ⟨steps - 1, by omega⟩
      refine membersOf?_more (memberOf?_eq_none distinct.1)
        (read (by omega) (stops_cons rfl _)) (inductionHypothesis ?_ ?_ ?_ ?_ ?_)
      · exact List.nodup_cons.mp distinct.2
      · exact fun other listed => reads other (List.mem_cons_of_mem _ listed)
      · omega
      · exact reads next (by simp)
      · exact length_written_le_assignment next

/-- A list is read back if its items are. -/
theorem reads_list {items : List Json} (reads : ∀ item ∈ items, Reads levels item) :
    Reads (levels + 1) (list items) := by
  refine Reads.of_cons (toList_written_list items) fun steps rest enough _ => ?_
  obtain ⟨fewer, rfl⟩ : ∃ fewer, steps = fewer + 1 := ⟨steps - 1, by omega⟩
  rw [List.length_append] at enough
  rw [List.cons_append, List.append_assoc, List.singleton_append]
  cases items with
  | nil => simp [tree?, skipSpaces_cons]
  | cons item items => exact tree?_list (items?_separated reads (by omega))

/-- An object is read back if its values are, and if no name occurs twice in it. -/
theorem reads_object {members : List (String × Json)} (distinct : (members.map Prod.fst).Nodup)
    (reads : ∀ member ∈ members, Reads levels member.2) :
    Reads (levels + 1) (object members) := by
  refine Reads.of_cons (toList_written_object members) fun steps rest enough _ => ?_
  obtain ⟨fewer, rfl⟩ : ∃ fewer, steps = fewer + 1 := ⟨steps - 1, by omega⟩
  rw [List.length_append] at enough
  rw [List.cons_append, List.append_assoc, List.singleton_append]
  cases members with
  | nil => simp [tree?, skipSpaces_cons]
  | cons member members => exact tree?_object (membersOf?_separated distinct reads (by omega))

end Collections

/-! ## Lines -/

/-- The trees that are read as they are written, down to a number of levels: their numbers are
integers of 64 bits, and no two members of one object share a name. -/
def Fits : Nat -> Json -> Prop
  | _, null | _, bool _ | _, text _ => True
  | _, int value => fitsInteger value = true
  | _, real _ => False
  | 0, list _ | 0, object _ => False
  | levels + 1, list items => ∀ item ∈ items, Fits levels item
  | levels + 1, object members =>
      (members.map Prod.fst).Nodup ∧ ∀ member ∈ members, Fits levels member.2

/-- More levels do no harm. -/
theorem Fits.mono {levels more : Nat} {tree : Json} (fits : tree.Fits levels)
    (deeper : levels ≤ more) : tree.Fits more := by
  induction levels generalizing tree more with
  | zero =>
      cases tree with
      | null | bool | int | text => cases more <;> exact fits
      | real | list | object => exact fits.elim
  | succ levels inductionHypothesis =>
      obtain ⟨more, rfl⟩ := Nat.exists_eq_add_of_lt deeper
      cases tree with
      | null | bool | int | text => exact fits
      | real => exact fits.elim
      | list items =>
          exact fun item member => inductionHypothesis (fits item member) (by omega)
      | object members =>
          exact ⟨fits.1, fun member listed => inductionHypothesis (fits.2 member listed) (by omega)⟩

/-- Whatever fits is read back, part by part. -/
theorem reads_of_fits : ∀ {levels : Nat} {tree : Json}, tree.Fits levels -> Reads levels tree
  | _, null, _ => reads_null
  | _, bool value, _ => reads_bool value
  | _, text value, _ => reads_text value
  | _, int value, fits => reads_int (by simpa only [Fits] using fits)
  | _, real _, fits => by simp only [Fits] at fits
  | _ + 1, list _, fits => reads_list fun item listed => reads_of_fits (fits item listed)
  | _ + 1, object _, fits =>
      reads_object fits.1 fun member listed => reads_of_fits (fits.2 member listed)

/-- A tree is read from the line that it was written on. -/
theorem ofWritten?_written {tree : Json} (fits : tree.Fits deepestLevel) :
    ofWritten? tree.written = some tree := by
  have alone : Stops [] := nofun
  have read := reads_of_fits fits (Nat.le_add_right (2 * tree.written.toList.length) 2) alone
  rw [List.append_nil] at read
  rw [ofWritten?, skipSpaces_of_tree? read, read]
  rfl

end Annunciator.Json
