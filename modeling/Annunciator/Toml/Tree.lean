import Annunciator.Json.Basic

/-!
# Tables of TOML

Statements build a tree of tables. A table can be stated by its own header, implied
by the header of a table inside it, or made by a dotted key, and it matters which:
what has been stated once cannot be stated again or be extended by dotted keys.
-/

namespace Annunciator.Toml

/-- How a table came to be. -/
inductive Origin where
  /-- It has its own header. -/
  | stated
  /-- Its name stands in the header of a table inside it. -/
  | implied
  /-- Its name stands in a dotted key. -/
  | dotted
  deriving DecidableEq, Repr

/-- A place in the tree. -/
inductive Node where
  | value (value : Json)
  | table (origin : Origin) (members : List (String × Node))
  /-- A list of tables, each with its own header. -/
  | tables (elements : List (List (String × Node)))

/-- The named places of a table. -/
abbrev Members := List (String × Node)

/-- What stands under a name. -/
def Members.get? (members : Members) (name : String) : Option Node :=
  (members.find? (·.1 = name)).map Prod.snd

/-- Put something under a name, in place of what stood there. -/
def Members.put (name : String) (node : Node) : Members -> Members
  | [] => [(name, node)]
  | (other, present) :: rest =>
      if other = name then (name, node) :: rest
      else (other, present) :: Members.put name node rest

/-- Change the table at the end of a path. Tables missing on the way are made, and
of a list of tables the last one is entered. A dotted path passes no table that
has been stated. -/
def alter? (dotted : Bool) (change : Origin -> Members -> Option Members) :
    List String -> Origin -> Members -> Option Members
  | [], origin, members => change origin members
  | name :: path, _, members =>
      match members.get? name with
      | none => do
          let origin := if dotted then Origin.dotted else .implied
          let inner <- alter? dotted change path origin []
          some (members.put name (.table origin inner))
      | some (.value _) => none
      | some (.table origin inner) =>
          if dotted && origin = .stated then none
          else do
            let inner <- alter? dotted change path origin inner
            some (members.put name (.table origin inner))
      | some (.tables elements) => do
          let last <- elements.getLast?
          let last <- alter? dotted change path .stated last
          some (members.put name (.tables (elements.dropLast ++ [last])))

/-- A key, dotted or not, with its value. -/
structure Assignment where
  path : List String
  name : String
  value : Json

/-- Enter a key into a table. The key must be new, and a dotted key may only extend
a table made by dotted keys. -/
def assign? (members : Members) (assignment : Assignment) : Option Members :=
  alter? true
    (fun origin members =>
      if (origin = .dotted) = assignment.path.isEmpty then none
      else if (members.get? assignment.name).isSome then none
      else some (members.put assignment.name (.value assignment.value)))
    assignment.path .stated members

/-- What a section of a document defines. -/
inductive Heading where
  | top
  | table (path : List String) (name : String)
  /-- One more table of a list of tables. -/
  | element (path : List String) (name : String)

/-- A heading with the keys below it. -/
structure Section where
  heading : Heading
  assignments : List Assignment

/-- Enter the keys of a section. -/
def Section.fill? (part : Section) (members : Members) : Option Members :=
  part.assignments.foldlM assign? members

/-- Enter a section into a document. A table can only be stated if nothing stands
in its place or it was implied. -/
def Section.enter? (document : Members) (part : Section) : Option Members :=
  match part.heading with
  | .top => part.fill? document
  | .table path name =>
      alter? false
        (fun _ parent => do
          let start : Members <- match parent.get? name with
            | none => some []
            | some (.table .implied members) => some members
            | some _ => none
          some (parent.put name (.table .stated (<- part.fill? start))))
        path .stated document
  | .element path name =>
      alter? false
        (fun _ parent => do
          let earlier <- match parent.get? name with
            | none => some []
            | some (.tables elements) => some elements
            | some _ => none
          some (parent.put name (.tables (earlier ++ [<- part.fill? []]))))
        path .stated document

/-- The members that the sections of a document define. -/
def ofSections? (sections : List Section) : Option Members :=
  sections.foldlM Section.enter? []

mutual

/-- A place as a data tree. -/
def Node.toJson : Node -> Json
  | .value value => value
  | .table _ members => .object (membersToJson members)
  | .tables elements => .list (elementsToJson elements)

/-- Named places as members of an object. -/
def membersToJson : List (String × Node) -> List (String × Json)
  | [] => []
  | (name, node) :: rest => (name, node.toJson) :: membersToJson rest

/-- Tables as the items of a list. -/
def elementsToJson : List (List (String × Node)) -> List Json
  | [] => []
  | members :: rest => .object (membersToJson members) :: elementsToJson rest

end

end Annunciator.Toml
