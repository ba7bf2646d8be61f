import Annunciator.Proofs.Ladder.Commands

/-!
# The kind of what a ladder holds

A ladder holds values of one kind, and only states that its point has. Its checks look at the
number of states and never at a kind. They keep the kind all the same, because the number of
states matches the kind from the start and no operation changes it.
-/

namespace Annunciator.PriorityLadder

/-- Everything that a ladder holds is of a kind and, where states are counted, one of them. The
states of a ladder are counted unless the kind is binary. -/
structure IsTyped (kind : ValueKind) (ladder : PriorityLadder) : Prop where
  matched : IsMatched kind ladder.numberOfStates
  slots : ∀ value, some value ∈ ladder.slots -> value.Fits kind ladder.numberOfStates
  fallback : ladder.relinquishDefault.Fits kind ladder.numberOfStates
  cached : ladder.cachedValue.Fits kind ladder.numberOfStates

/-- The value of a ladder is in one of its slots, or it is the default. -/
theorem fits_resolve {kind : ValueKind} {numberOfStates : Option UInt32} {ladder : PriorityLadder}
    (slots : ∀ value, some value ∈ ladder.slots -> value.Fits kind numberOfStates)
    (fallback : ladder.relinquishDefault.Fits kind numberOfStates) :
    ladder.resolve.Fits kind numberOfStates := by
  rw [resolve]
  cases found : ladder.slots.toList.findSome? id with
  | none => exact fallback
  | some value =>
      obtain ⟨held, member, same⟩ := List.exists_of_findSome?_eq_some found
      cases same
      exact slots value (Vector.mem_toList_iff.mp member)

/-- What an accepted write leaves in its slot is a value that the point takes. -/
theorem Operation.IsAcceptable.fits {kind : ValueKind} {numberOfStates : Option UInt32}
    {operation : Operation} (acceptable : operation.IsAcceptable kind numberOfStates)
    {priority : UInt8} {held : Option PointValue}
    (writes : operation.write? = some (priority, held)) :
    ∀ value ∈ held, value.Fits kind numberOfStates := by
  cases operation with
  | write target value =>
      cases writes
      exact acceptable.2
  | relinquish target =>
      cases writes
      exact fun value member => absurd member (Option.not_mem_none value)
  | setRelinquishDefault | setOutOfService | takeChanged => cases writes

/-- A ladder is set up only for a default that fits. -/
theorem fits_of_create {default : PointValue} {numberOfStates : Option UInt32}
    {ladder : PriorityLadder} (built : create default numberOfStates = .ok ladder) :
    default.Fits default.kind numberOfStates := by
  refine ⟨rfl, ?_⟩
  rintro state rfl max rfl
  rw [← isOutsideStates_eq_false_iff]
  by_contra outside
  rw [Bool.not_eq_false] at outside
  -- A state out of range is refused, be it that there are no states or that it is none of them.
  by_cases empty : max = 0 <;> simp [create, empty, outside] at built

/-- A new ladder holds nothing but its default, which fits. -/
theorem IsTyped.create {default : PointValue} {numberOfStates : Option UInt32}
    {ladder : PriorityLadder} (built : create default numberOfStates = .ok ladder) :
    ladder.IsTyped default.kind := by
  have fits := fits_of_create built
  obtain ⟨rfl, matched⟩ := of_create built
  refine ⟨matched, fun value member => ?_, fits, fits⟩
  cases (Vector.mem_replicate.mp member).2

section Typed

variable {kind : ValueKind} {ladder : PriorityLadder} (typed : ladder.IsTyped kind)
include typed

theorem IsTyped.kind_eq : ladder.kind = kind := typed.fallback.1

/-- The value of a well-typed ladder fits, whichever slot it comes from. -/
theorem IsTyped.resolve : ladder.resolve.Fits kind ladder.numberOfStates :=
  fits_resolve typed.slots typed.fallback

/-- A command that stores nothing but what fits keeps a ladder well typed. -/
theorem IsTyped.commanded {changed : PriorityLadder}
    (counted : changed.numberOfStates = ladder.numberOfStates)
    (slots : ∀ value, some value ∈ changed.slots -> value.Fits kind ladder.numberOfStates)
    (fallback : changed.relinquishDefault.Fits kind ladder.numberOfStates) :
    (ladder.commanded changed).2.IsTyped kind := by
  rw [← counted] at slots fallback
  rw [commanded_ladder]
  exact ⟨counted ▸ typed.matched, slots, fallback, fits_resolve slots fallback⟩

/-- No operation stores a value of another kind, or a state that there is not. -/
theorem IsTyped.perform (operation : Operation) :
    (ladder.perform operation).2.IsTyped kind := by
  -- What an operation takes depends on the default, which is of the kind itself.
  have matched : IsMatched ladder.kind ladder.numberOfStates := by
    rw [typed.kind_eq]
    exact typed.matched
  have done := performed matched operation
  generalize ladder.perform operation = result at done ⊢
  cases done with
  | @stored _ _ held slot acceptable writes _ =>
      rw [typed.kind_eq] at acceptable
      refine typed.commanded rfl (fun value member => ?_) typed.fallback
      have among : some value ∈ ladder.slots.set slot.val held slot.isLt := member
      rcases Vector.mem_or_eq_of_mem_set among with earlier | stored
      · exact typed.slots value earlier
      · exact acceptable.fits writes value stored.symm
  | defaulted fits =>
      rw [typed.kind_eq] at fits
      exact typed.commanded rfl typed.slots fits
  | refused | kept => exact typed
  | flipped | asked => exact ⟨typed.matched, typed.slots, typed.fallback, typed.cached⟩

end Typed

end Annunciator.PriorityLadder
