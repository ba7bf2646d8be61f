import Annunciator.SortedMap
import Mathlib.Data.List.Nodup

/-!
# What maps in key order are known by

A map in key order is known by its lookups, and an ascending listing by its members. So maps and
listings that were built up in different orders can be compared by what is in them.
-/

namespace Annunciator

/-- Of two different keys only one is below the other. -/
theorem KeyOrder.asymmetric {Key : Type} [KeyOrder Key] {left right : Key}
    (below : left < right) : ¬ right < left := fun above =>
  KeyOrder.irreflexive left (KeyOrder.transitive below above)

/-- Listings in one strict order are the same if they have the same members. -/
theorem eq_of_ascending {Item : Type} {Below : Item -> Item -> Prop}
    (asymmetric : ∀ {left right}, Below left right -> ¬ Below right left)
    {left right : List Item} (leftAscending : left.Pairwise Below)
    (rightAscending : right.Pairwise Below)
    (sameMembers : ∀ item, item ∈ left ↔ item ∈ right) : left = right := by
  have distinct : ∀ {one other : Item}, Below one other -> one ≠ other := by
    rintro one _ below rfl
    exact asymmetric below below
  refine List.Perm.eq_of_pairwise ?_ leftAscending rightAscending ?_
  · intro one other _ _ below above
    exact absurd above (asymmetric below)
  · rw [List.perm_ext_iff_of_nodup (leftAscending.imp distinct) (rightAscending.imp distinct)]
    exact sameMembers

namespace SortedMap

variable {Key Value : Type} [KeyOrder Key] [DecidableEq Key]

/-! ## Lookups -/

/-- Maps with the same lookups are the same map. -/
theorem ext_get? {left right : SortedMap Key Value}
    (lookups : ∀ key, left.get? key = right.get? key) : left = right := by
  apply SortedMap.ext
  refine @eq_of_ascending _ (fun one other => one.1 < other.1) KeyOrder.asymmetric _ _ ?_ ?_ ?_
  · exact List.pairwise_map.mp left.ascending
  · exact List.pairwise_map.mp right.ascending
  · rintro ⟨key, value⟩
    rw [← get?_eq_some_iff, ← get?_eq_some_iff, lookups]

/-- The values of a map are what can be found in it. -/
theorem mem_values_iff {map : SortedMap Key Value} {value : Value} :
    value ∈ map.values ↔ ∃ key, map.get? key = some value := by
  rw [values, List.mem_map]
  constructor
  · rintro ⟨⟨key, _⟩, listed, rfl⟩
    exact ⟨key, (get?_eq_some_iff _ _ _).mpr listed⟩
  · rintro ⟨key, found⟩
    exact ⟨(key, value), (get?_eq_some_iff _ _ _).mp found, rfl⟩

/-- The keys of a map are those that have a value. -/
theorem mem_keys_iff {map : SortedMap Key Value} {key : Key} :
    key ∈ map.keys ↔ (map.get? key).isSome = true := by
  rw [keys, List.mem_map, Option.isSome_iff_exists]
  constructor
  · rintro ⟨⟨_, value⟩, listed, rfl⟩
    exact ⟨value, (get?_eq_some_iff _ _ _).mpr listed⟩
  · rintro ⟨value, found⟩
    exact ⟨(key, value), (get?_eq_some_iff _ _ _).mp found, rfl⟩

/-! ## Many entries at once -/

/-- Entries of one value are found under the keys that they were made for. -/
theorem get?_insertAll (map : SortedMap Key Value) (keys : List Key) (value : Value)
    (key : Key) :
    (keys.foldl (fun map key => map.insert key value) map).get? key =
      if key ∈ keys then some value else map.get? key := by
  induction keys generalizing map with
  | nil => simp
  | cons first rest inductionHypothesis =>
      rw [List.foldl_cons, inductionHypothesis, get?_insert]
      by_cases here : first = key
      · simp [here]
      · simp [here, Ne.symm here]

/-- Dropped keys have no value any more, and all others keep theirs. -/
theorem get?_eraseAll (map : SortedMap Key Value) (keys : List Key) (key : Key) :
    (keys.foldl erase map).get? key = if key ∈ keys then none else map.get? key := by
  induction keys generalizing map with
  | nil => simp
  | cons first rest inductionHypothesis =>
      rw [List.foldl_cons, inductionHypothesis, get?_erase]
      by_cases here : first = key
      · simp [here]
      · simp [here, Ne.symm here]

/-! ## Distinct members -/

/-- The distinct members of a list are its members. -/
theorem mem_distinct_iff {keys : List Key} {key : Key} : key ∈ distinct keys ↔ key ∈ keys := by
  rw [distinct, mem_keys_iff, ofList, List.foldl_map, get?_insertAll]
  by_cases listed : key ∈ keys
  · simp [listed]
  · rw [if_neg listed]
    exact iff_of_false Bool.false_ne_true listed

omit [DecidableEq Key] in
/-- The distinct members of a list come in strictly ascending order. -/
theorem distinct_ascending (keys : List Key) : (distinct keys).Pairwise (· < ·) :=
  SortedMap.ascending _

end SortedMap

end Annunciator
