/-!
# Data trees

Saved state, requests and configuration are all exchanged as one kind of tree.
Nothing in a station computes with fractions, so a number that is no plain integer
is kept as its text: it is told apart from every integer and handed back unchanged.
-/

namespace Annunciator

/-- A tree of named and listed scalars. -/
inductive Json where
  | null
  | bool (value : Bool)
  | int (value : Int)
  /-- A number with a fraction, with an exponent or beyond 64 bits, as it was written. -/
  | real (lexeme : String)
  | text (value : String)
  | list (items : List Json)
  | object (members : List (String × Json))
  deriving Inhabited, Repr, BEq

namespace Json

/-- The value standing under `name` in a list of members; the first one counts. -/
def memberOf? (name : String) : List (String × Json) -> Option Json
  | [] => none
  | (key, value) :: rest => if key = name then some value else memberOf? name rest

/-- The members of an object, from which records are read; other trees have no members. -/
def members? : Json -> Option (List (String × Json))
  | object members => some members
  | _ => none

@[simp] theorem memberOf?_cons_self (name : String) (value : Json)
    (rest : List (String × Json)) :
    memberOf? name ((name, value) :: rest) = some value := by
  simp [memberOf?]

theorem memberOf?_cons_ne {key name : String} (differ : key ≠ name) (value : Json)
    (rest : List (String × Json)) :
    memberOf? name ((key, value) :: rest) = memberOf? name rest := by
  simp [memberOf?, differ]

@[simp] theorem members?_object (members : List (String × Json)) :
    members? (object members) = some members := rfl

end Json

end Annunciator
