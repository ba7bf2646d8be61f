/-!
# Maps in key order

A finite map whose entries are listed in strictly ascending key order. The order
is part of the type: two maps with the same lookups are the same map, and every
listing of a map comes out in key order without further work.
-/

namespace Annunciator

/-- A decidable strict total order on the keys of a map. -/
class KeyOrder (Key : Type) extends LT Key where
  decidableLt (left right : Key) : Decidable (left < right)
  irreflexive (key : Key) : ¬ key < key
  transitive {low middle high : Key} : low < middle -> middle < high -> low < high
  connected (left right : Key) : ¬ left < right -> ¬ right < left -> left = right

instance decidableBelow {Key : Type} [KeyOrder Key] : DecidableLT Key :=
  KeyOrder.decidableLt

/-- Every lawful linear order with a decidable `<` orders keys. -/
instance {Key : Type} [LT Key] [LE Key] [DecidableLT Key] [Std.IsLinearOrder Key]
    [Std.LawfulOrderLT Key] : KeyOrder Key where
  decidableLt := inferInstance
  irreflexive _ := Std.lt_irrefl
  transitive := Std.lt_trans
  connected _ _ notBelow notAbove :=
    Std.le_antisymm (Std.not_lt.mp notAbove) (Std.not_lt.mp notBelow)

/-- Keys that are told apart by an ordered rank are ordered by it. -/
@[reducible] def KeyOrder.byRank {Key Rank : Type} [KeyOrder Rank] (rank : Key -> Rank)
    (injective : forall {left right}, rank left = rank right -> left = right) :
    KeyOrder Key where
  lt left right := rank left < rank right
  decidableLt left right := inferInstanceAs (Decidable (rank left < rank right))
  irreflexive key := KeyOrder.irreflexive (rank key)
  transitive := KeyOrder.transitive
  connected left right notBelow notAbove :=
    injective (KeyOrder.connected (rank left) (rank right) notBelow notAbove)

/-- A finite map listed in strictly ascending key order. -/
structure SortedMap (Key Value : Type) [KeyOrder Key] where
  entries : List (Key × Value)
  ascending : (entries.map Prod.fst).Pairwise (· < ·)

namespace SortedMap

variable {Key Value : Type} [KeyOrder Key]

/-- The map without entries. -/
def empty : SortedMap Key Value := ⟨[], .nil⟩

instance : Inhabited (SortedMap Key Value) := ⟨empty⟩

instance : EmptyCollection (SortedMap Key Value) := ⟨empty⟩

/-- Maps are equal exactly when their listings are. -/
@[ext] theorem ext {left right : SortedMap Key Value}
    (entries : left.entries = right.entries) : left = right := by
  cases left
  cases right
  cases entries
  rfl

instance [DecidableEq Key] [DecidableEq Value] : DecidableEq (SortedMap Key Value) :=
  fun left right => decidable_of_iff (left.entries = right.entries)
    ⟨ext, fun equal => congrArg entries equal⟩

/-- The keys in ascending order. -/
def keys (map : SortedMap Key Value) : List Key := map.entries.map Prod.fst

/-- The values in the order of their keys. -/
def values (map : SortedMap Key Value) : List Value := map.entries.map Prod.snd

/-- The number of entries. -/
def size (map : SortedMap Key Value) : Nat := map.entries.length

/-- Change every value, given its key. -/
def mapValues {Result : Type} (map : SortedMap Key Value)
    (change : Key -> Value -> Result) : SortedMap Key Result where
  entries := map.entries.map fun entry => (entry.1, change entry.1 entry.2)
  ascending := by simpa [Function.comp_def] using map.ascending

/-- A trait of all values stays where it is when every value keeps it. -/
theorem mapValues_mapValues {Trait : Type} {map : SortedMap Key Value} (trait : Value -> Trait)
    {change : Key -> Value -> Value}
    (kept : ∀ entry ∈ map.entries, trait (change entry.1 entry.2) = trait entry.2) :
    (map.mapValues change).mapValues (fun _ => trait) = map.mapValues fun _ => trait := by
  ext1
  simp only [mapValues, List.map_map]
  refine List.map_congr_left fun entry member => ?_
  rw [Function.comp_apply, kept entry member]

/-! ## Insertion -/

/-- Put a value under a key into an ascending listing, replacing the value that
the key had. -/
def insertEntry (key : Key) (value : Value) : List (Key × Value) -> List (Key × Value)
  | [] => [(key, value)]
  | (present, old) :: rest =>
      if key < present then (key, value) :: (present, old) :: rest
      else if present < key then (present, old) :: insertEntry key value rest
      else (key, value) :: rest

/-- Insertion brings in no entry but the inserted one. -/
theorem mem_insertEntry {key : Key} {value : Value} {entry : Key × Value} :
    {entries : List (Key × Value)} ->
    entry ∈ insertEntry key value entries -> entry = (key, value) ∨ entry ∈ entries
  | [], member => by simpa [insertEntry] using member
  | (present, old) :: rest, member => by
      rw [insertEntry] at member
      split at member
      · exact List.mem_cons.mp member
      · split at member
        · rcases List.mem_cons.mp member with here | later
          · exact .inr (List.mem_cons.mpr (.inl here))
          · rcases mem_insertEntry later with inserted | old
            · exact .inl inserted
            · exact .inr (List.mem_cons_of_mem _ old)
        · rcases List.mem_cons.mp member with here | later
          · exact .inl here
          · exact .inr (List.mem_cons_of_mem _ later)

/-- Insertion brings in no key but the inserted one. -/
theorem mem_keys_insertEntry {key other : Key} {value : Value}
    {entries : List (Key × Value)}
    (member : other ∈ (insertEntry key value entries).map Prod.fst) :
    other = key ∨ other ∈ entries.map Prod.fst := by
  obtain ⟨entry, listed, rfl⟩ := List.mem_map.mp member
  rcases mem_insertEntry listed with rfl | old
  · exact .inl rfl
  · exact .inr (List.mem_map_of_mem old)

/-- Insertion keeps a listing in strictly ascending key order. -/
theorem ascending_insertEntry (key : Key) (value : Value) :
    {entries : List (Key × Value)} ->
    (entries.map Prod.fst).Pairwise (· < ·) ->
    ((insertEntry key value entries).map Prod.fst).Pairwise (· < ·)
  | [], _ => by simp [insertEntry]
  | (present, old) :: rest, ascending => by
      have above := (List.pairwise_cons.mp ascending).1
      have later := (List.pairwise_cons.mp ascending).2
      rw [insertEntry]
      split
      · next below =>
          refine List.pairwise_cons.mpr ⟨?_, ascending⟩
          intro other member
          rcases List.mem_cons.mp member with here | deeper
          · exact here ▸ below
          · exact KeyOrder.transitive below (above other deeper)
      · next notBelow =>
          split
          · next below =>
              refine List.pairwise_cons.mpr ⟨?_, ascending_insertEntry key value later⟩
              intro other member
              rcases mem_keys_insertEntry member with same | deeper
              · exact same ▸ below
              · exact above other deeper
          · next notAbove =>
              have same : key = present := KeyOrder.connected key present notBelow notAbove
              subst same
              exact ascending

/-- Put a value under a key, replacing the value that the key had. -/
def insert (map : SortedMap Key Value) (key : Key) (value : Value) :
    SortedMap Key Value where
  entries := insertEntry key value map.entries
  ascending := ascending_insertEntry key value map.ascending

/-- The map that a list of entries builds; of two entries with one key the later
one counts. -/
def ofList (entries : List (Key × Value)) : SortedMap Key Value :=
  entries.foldl (fun map entry => map.insert entry.1 entry.2) empty

/-- The distinct members of a list in ascending order. -/
def distinct (keys : List Key) : List Key :=
  (ofList (keys.map fun key => (key, ()))).keys

/-! ## Lookup and change of single entries -/

section Single

variable [DecidableEq Key]

/-- The value kept under a key. -/
def get? (map : SortedMap Key Value) (key : Key) : Option Value :=
  (map.entries.find? (·.1 = key)).map Prod.snd

/-- Whether a key has a value. -/
def contains (map : SortedMap Key Value) (key : Key) : Bool :=
  (map.get? key).isSome

/-- Change the value under one key, if it has one. -/
def modify (map : SortedMap Key Value) (key : Key) (change : Value -> Value) :
    SortedMap Key Value :=
  map.mapValues fun present value => if present = key then change value else value

/-- Drop the entry of one key. -/
def erase (map : SortedMap Key Value) (key : Key) : SortedMap Key Value where
  entries := map.entries.filter (·.1 ≠ key)
  ascending := map.ascending.sublist (List.filter_sublist.map Prod.fst)

/-- What is found under a key is what is listed with it. -/
theorem get?_eq_some_iff (map : SortedMap Key Value) (key : Key) (value : Value) :
    map.get? key = some value ↔ (key, value) ∈ map.entries := by
  obtain ⟨entries, ascending⟩ := map
  simp only [get?]
  induction entries with
  | nil => simp
  | cons entry rest inductionHypothesis =>
      obtain ⟨present, old⟩ := entry
      obtain ⟨above, later⟩ := List.pairwise_cons.mp ascending
      by_cases here : present = key
      · subst here
        have absent : (present, value) ∉ rest := by
          intro member
          exact KeyOrder.irreflexive present (above present (List.mem_map.mpr ⟨_, member, rfl⟩))
        simp [absent, eq_comm]
      · have differ : (key, value) ≠ (present, old) := fun same =>
          here (congrArg Prod.fst same).symm
        simpa [List.find?_cons, here, differ] using inductionHypothesis later

/-- An insertion into a listing changes what is found under its key, and under no
other. -/
theorem find?_insertEntry (key other : Key) (value : Value) :
    (entries : List (Key × Value)) ->
    ((insertEntry key value entries).find? (·.1 = other)).map Prod.snd =
      if key = other then some value else (entries.find? (·.1 = other)).map Prod.snd
  | [] => by
      by_cases same : key = other <;> simp [insertEntry, same]
  | (present, old) :: rest => by
      rw [insertEntry]
      split
      · by_cases same : key = other <;> simp [same]
      · next notBelow =>
          split
          · next below =>
              by_cases here : present = other
              · have differ : key ≠ other := by
                  intro same
                  subst here
                  subst same
                  exact KeyOrder.irreflexive _ below
                simp [here, differ]
              · simp only [List.find?_cons, here, decide_false]
                exact find?_insertEntry key other value rest
          · next notAbove =>
              have same : key = present := KeyOrder.connected key present notBelow notAbove
              subst same
              by_cases here : key = other <;> simp [here]

/-- An insertion changes the value of its key, and of no other. -/
theorem get?_insert (map : SortedMap Key Value) (key other : Key) (value : Value) :
    (map.insert key value).get? other =
      if key = other then some value else map.get? other :=
  find?_insertEntry key other value map.entries

/-- A change of every value changes what is found under each key. -/
theorem get?_mapValues {Result : Type} (map : SortedMap Key Value)
    (change : Key -> Value -> Result) (key : Key) :
    (map.mapValues change).get? key = (map.get? key).map (change key) := by
  obtain ⟨entries, ascending⟩ := map
  simp only [get?, mapValues]
  clear ascending
  induction entries with
  | nil => rfl
  | cons entry rest inductionHypothesis =>
      by_cases here : entry.1 = key
      · simp [here]
      · simpa [List.find?_cons, here] using inductionHypothesis

/-- A change of the value of one key leaves the others alone. -/
theorem get?_modify (map : SortedMap Key Value) (key other : Key)
    (change : Value -> Value) :
    (map.modify key change).get? other =
      if key = other then (map.get? other).map change else map.get? other := by
  rw [modify, get?_mapValues]
  by_cases same : key = other
  · simp [same]
  · simp [same, Ne.symm same]

/-- A trait of all values stays where it is when the changed value keeps it. -/
theorem mapValues_modify {Trait : Type} {map : SortedMap Key Value} (trait : Value -> Trait)
    {key : Key} {change : Value -> Value}
    (kept : ∀ old, map.get? key = some old -> trait (change old) = trait old) :
    (map.modify key change).mapValues (fun _ => trait) = map.mapValues fun _ => trait := by
  refine mapValues_mapValues trait ?_
  rintro ⟨present, old⟩ member
  dsimp only
  split
  · next here =>
      subst here
      exact kept old ((get?_eq_some_iff _ _ _).mpr member)
  · rfl

/-- A dropped key has no value, and all others keep theirs. -/
theorem get?_erase (map : SortedMap Key Value) (key other : Key) :
    (map.erase key).get? other = if key = other then none else map.get? other := by
  obtain ⟨entries, ascending⟩ := map
  simp only [get?, erase, List.find?_filter]
  split
  · next same =>
      subst same
      simp
  · next differ =>
      congr 2
      funext entry
      by_cases here : entry.1 = other <;> simp [here, Ne.symm differ]

end Single

end SortedMap

end Annunciator
