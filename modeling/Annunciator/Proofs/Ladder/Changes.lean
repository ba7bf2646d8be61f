import Annunciator.Proofs.Ladder.Commands

/-!
# Noticed changes

A ladder keeps the value that it had after its last command, and raises a flag whenever
its value or its service flag becomes another. The flag stays up until it is asked for.
-/

namespace Annunciator.PriorityLadder

/-- The cached value of a ladder is its value. -/
structure Settled (ladder : PriorityLadder) : Prop where
  matched : IsMatched ladder.kind ladder.numberOfStates
  cached : ladder.cachedValue = ladder.resolve

/-- A new ladder has its default as its value, and no change to tell of. -/
theorem Settled.create {default : PointValue} {numberOfStates : Option UInt32}
    {ladder : PriorityLadder} (built : create default numberOfStates = .ok ladder) :
    ladder.Settled ∧ ladder.changed = false ∧ ladder.outOfService = false := by
  obtain ⟨rfl, matched⟩ := of_create built
  refine ⟨⟨matched, ?_⟩, rfl, rfl⟩
  have free : (Vector.replicate priorityLevels (none : Option PointValue)).toList.findSome? id =
      none := List.findSome?_eq_none_iff.mpr (by simp)
  rw [resolve, free, Option.getD_none]

/-- The service flag has no part in the value. -/
theorem resolve_setOutOfService (ladder : PriorityLadder) (value : Bool) :
    (ladder.setOutOfService value).resolve = ladder.resolve := by
  rw [setOutOfService]
  split <;> rfl

section Settled

variable {ladder : PriorityLadder} (settled : ladder.Settled)
include settled

/-- Whatever a command does to the slots or the default, it raises the flag exactly if the
value becomes another. -/
theorem Settled.commanded (changed : PriorityLadder) (sameKind : changed.kind = ladder.kind)
    (sameStates : changed.numberOfStates = ladder.numberOfStates)
    (sameCache : changed.cachedValue = ladder.cachedValue)
    (sameFlag : changed.changed = ladder.changed) :
    (ladder.commanded changed).2.Settled ∧
      ((ladder.commanded changed).2.changed = true ↔
        ladder.changed = true ∨ (ladder.commanded changed).2.resolve ≠ ladder.resolve) := by
  rw [commanded_ladder]
  have value : resolve { changed with
      cachedValue := changed.resolve
      changed := changed.changed || changed.resolve ≠ changed.cachedValue } =
      changed.resolve := rfl
  refine ⟨⟨?_, rfl⟩, ?_⟩
  · change IsMatched changed.kind changed.numberOfStates
    rw [sameKind, sameStates]
    exact settled.matched
  · rw [value, sameFlag, sameCache, settled.cached]
    simp

/-- An accepted command leaves a ladder settled and its service flag alone, and is noticed
exactly if the value becomes another. -/
theorem Settled.command {operation : Operation} {command : Command} {after : PriorityLadder}
    (accepted : ladder.perform operation = (.command command, after)) :
    after.Settled ∧ after.outOfService = ladder.outOfService ∧
      (after.changed = true ↔ ladder.changed = true ∨ after.resolve ≠ ladder.resolve) := by
  have done := performed settled.matched operation
  have final : after = (ladder.perform operation).2 := by rw [accepted]
  have answer : (ladder.perform operation).1 = .command command := by rw [accepted]
  clear accepted
  subst final
  generalize ladder.perform operation = result at done answer ⊢
  cases done with
  | @stored _ _ held slot _ _ _ =>
      obtain ⟨kept, noticed⟩ :=
        settled.commanded { ladder with slots := ladder.slots.set slot.val held slot.isLt }
          rfl rfl rfl rfl
      exact ⟨kept, by rw [commanded_ladder], noticed⟩
  | @defaulted value fits =>
      obtain ⟨kept, noticed⟩ :=
        settled.commanded { ladder with relinquishDefault := value } fits.1 rfl rfl rfl
      exact ⟨kept, by rw [commanded_ladder], noticed⟩
  | refused | flipped | kept | asked => cases answer

/-- A switch of the service flag raises the flag for changes exactly if it is another. -/
theorem Settled.setOutOfService (value : Bool) :
    (ladder.setOutOfService value).Settled ∧
      ((ladder.setOutOfService value).changed = true ↔
        ladder.changed = true ∨
          (ladder.setOutOfService value).outOfService ≠ ladder.outOfService) := by
  rw [PriorityLadder.setOutOfService]
  split
  · exact ⟨settled, by simp⟩
  · next differs => exact ⟨⟨settled.matched, settled.cached⟩, by simp [Ne.symm differs]⟩

/-- Asking for the flag lowers it, and leaves the value alone. -/
theorem Settled.takeChanged : ladder.takeChanged.2.Settled :=
  ⟨settled.matched, settled.cached⟩

end Settled

end Annunciator.PriorityLadder
