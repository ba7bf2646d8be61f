import Annunciator.Json.Basic

/-!
# Saved forms

`JsonForm` gives a type its one saved form: how a value is written as a tree
and which trees are read as a value. Reading is exact. A number out of range, a
fraction, a list of the wrong length or an unknown name is refused, and members
that a record does not know are ignored.
-/

namespace Annunciator

/-- The saved form of a type. -/
class JsonForm (α : Type) where
  toJson : α -> Json
  ofJson? : Json -> Option α

export JsonForm (toJson ofJson?)

namespace Json

/-! ## Numbers -/

/-- A natural number below `size`, written as a plain integer. -/
def below? (size : Nat) : Json -> Option Nat
  | int value => if 0 ≤ value ∧ value < size then some value.toNat else none
  | _ => none

/-! ## Members of a record -/

section Members

variable {α : Type} (members : List (String × Json)) (name : String)

/-- A member that has to be there. A missing member reads as `null`. -/
def requiredBy? (read : Json -> Option α) : Option α :=
  read ((memberOf? name members).getD null)

/-- A member that may be missing, but not `null` unless its type admits that. -/
def defaultedBy? (read : Json -> Option α) (default : α) : Option α :=
  match memberOf? name members with
  | some value => read value
  | none => some default

/-- A member that has to be there, in its type's saved form. -/
def required? [JsonForm α] : Option α :=
  requiredBy? members name ofJson?

/-- A member with a value to fall back on, in its type's saved form. -/
def defaulted? [JsonForm α] (default : α) : Option α :=
  defaultedBy? members name ofJson? default

end Members

/-! ## Lists and names -/

/-- A list whose items are all readable. -/
def listOf? {α : Type} (read : Json -> Option α) : Json -> Option (List α)
  | list items => items.mapM read
  | _ => none

/-- A member that lists things, none of them if it is missing. -/
def listedBy? {α : Type} (members : List (String × Json)) (name : String)
    (read : Json -> Option α) : Option (List α) :=
  defaultedBy? members name (listOf? read) []

/-- One of finitely many named values: its name, or the same name with nothing
attached, `{name: null}`. -/
def named? {α : Type} (values : List α) (name : α -> String) : Json -> Option α
  | text spelling => values.find? (name · = spelling)
  | object [(spelling, null)] => values.find? (name · = spelling)
  | _ => none

/-- A name with an empty object attached to it, `{name: {}}`, as the bare name. Inside
records that are told apart by a tag, such a name is as good as a bare one. -/
def bareName : Json -> Json
  | object [(spelling, object [])] => text spelling
  | value => value

/-- A value that may be absent, which is written `null`. -/
def orNull? {α : Type} (read : Json -> Option α) : Json -> Option (Option α)
  | null => some none
  | value => (read value).map some

end Json

/-! ## Scalars, lists and optional values -/

/-- A tree is its own saved form. -/
instance : JsonForm Json where
  toJson := id
  ofJson? := some

instance : JsonForm Bool where
  toJson := .bool
  ofJson?
    | .bool value => some value
    | _ => none

instance : JsonForm String where
  toJson := .text
  ofJson?
    | .text value => some value
    | _ => none

instance : JsonForm UInt8 where
  toJson value := .int value.toNat
  ofJson? value := (Json.below? UInt8.size value).map UInt8.ofNat

instance : JsonForm UInt16 where
  toJson value := .int value.toNat
  ofJson? value := (Json.below? UInt16.size value).map UInt16.ofNat

instance : JsonForm UInt32 where
  toJson value := .int value.toNat
  ofJson? value := (Json.below? UInt32.size value).map UInt32.ofNat

instance : JsonForm UInt64 where
  toJson value := .int value.toNat
  ofJson? value := (Json.below? UInt64.size value).map UInt64.ofNat

instance {α : Type} [JsonForm α] : JsonForm (List α) where
  toJson items := .list (items.map toJson)
  ofJson? := Json.listOf? ofJson?

instance {α : Type} [JsonForm α] : JsonForm (Option α) where
  toJson
    | none => .null
    | some value => toJson value
  ofJson? := Json.orNull? ofJson?

instance {α : Type} {count : Nat} [JsonForm α] : JsonForm (Vector α count) where
  toJson items := .list (items.toList.map toJson)
  ofJson? value := do
    let items <- Json.listOf? ofJson? value
    if length : items.length = count then
      some ⟨items.toArray, by simpa using length⟩
    else
      none

end Annunciator
