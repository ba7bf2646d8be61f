import Annunciator.Proofs.Histories
import Annunciator.Proofs.Ladder.Commands

/-!
# The history of a ladder

A ladder is no more than the last value that was written at each priority and the last
default that was set: `Follows` says so of a history and the ladder after it, and every
operation keeps it. Its value is then read off at the first priority in use.
-/

namespace Annunciator.PriorityLadder

/-- One operation that a ladder carried out. -/
abbrev LadderStep := Step PriorityLadder Operation Answer

/-- The steps that some operations make, oldest first. -/
abbrev history (ladder : PriorityLadder) (operations : List Operation) : List LadderStep :=
  historyOf perform ladder operations

/-- The ladder after some operations. -/
abbrev after (ladder : PriorityLadder) (operations : List Operation) : PriorityLadder :=
  stateAfter perform ladder operations

/-- Whether the answer to an operation is that of an accepted command. -/
def Answer.IsCommand (answer : Answer) : Prop := ∃ command, answer = .command command

/-- What a step left in the slot of a priority, if it was an accepted write there. -/
def written? (priority : UInt8) (step : LadderStep) : Option (Option PointValue) :=
  match step.answer, step.operation.write? with
  | .command _, some (target, held) => if target = priority then some held else none
  | _, _ => none

/-- The default that a step set, if it was accepted. -/
def defaulted? (step : LadderStep) : Option PointValue :=
  match step.answer, step.operation with
  | .command _, .setRelinquishDefault value => some value
  | _, _ => none

/-- What the accepted writes at a priority left in its slot, oldest first. -/
def writes (priority : UInt8) (steps : List LadderStep) : List (Option PointValue) :=
  steps.filterMap (written? priority)

/-- The accepted defaults, oldest first. -/
def defaults (steps : List LadderStep) : List PointValue := steps.filterMap defaulted?

/-! ## What one step adds -/

/-- A step leaves something in a slot, or the slot is as it was. -/
theorem getLast?_writes_concat (priority : UInt8) (steps : List LadderStep) (step : LadderStep) :
    (writes priority (steps ++ [step])).getLast?.join =
      (written? priority step).getD (writes priority steps).getLast?.join := by
  rw [writes, getLast?_filterMap_concat, writes]
  cases written? priority step <;> rfl

/-- A step leaves a default, or the default is as it was. -/
theorem getLast?_defaults_concat (steps : List LadderStep) (step : LadderStep)
    (default : PointValue) :
    (defaults (steps ++ [step])).getLast?.getD default =
      (defaulted? step).getD ((defaults steps).getLast?.getD default) := by
  rw [defaults, getLast?_filterMap_concat, Option.getD_or, defaults]

/-- Only an operation that is answered by a command leaves anything anywhere. -/
theorem left_of_not_command {step : LadderStep} (refused : ¬ step.answer.IsCommand) :
    (∀ priority, written? priority step = none) ∧ defaulted? step = none := by
  constructor
  · intro priority
    rw [written?]
    split
    · next answered _ => exact absurd ⟨_, answered⟩ refused
    · rfl
  · rw [defaulted?]
    split
    · next answered _ => exact absurd ⟨_, answered⟩ refused
    · rfl

/-! ## The ladder that a history describes -/

/-- A ladder that was set up with a default and a number of states has gone through a
history, and holds what the accepted commands of the history left behind. -/
structure Follows (default : PointValue) (numberOfStates : Option UInt32)
    (steps : List LadderStep) (ladder : PriorityLadder) : Prop where
  counted : ladder.numberOfStates = numberOfStates
  kind : ladder.kind = default.kind
  slots : ∀ priority, ladder.slot? priority = (writes priority steps).getLast?.join
  fallback : ladder.relinquishDefault = (defaults steps).getLast?.getD default
  cached : ladder.cachedValue = ladder.resolve
  /-- The commands that were accepted are those that the point takes. -/
  accepted : ∀ step ∈ steps, step.answer.IsCommand ↔
    step.operation.IsAcceptable default.kind numberOfStates
  /-- The answer to a command is the value before it, the value after it, and whether the
  output is to follow. -/
  answered : ∀ step ∈ steps, ∀ command, step.answer = .command command ->
    command = ⟨step.before.resolve, step.after.resolve, !step.before.outOfService⟩

/-- A new ladder has empty slots and its default, which is what no steps at all leave behind. -/
theorem Follows.create {default : PointValue} {numberOfStates : Option UInt32}
    {ladder : PriorityLadder} (built : create default numberOfStates = .ok ladder) :
    Follows default numberOfStates [] ladder := by
  obtain ⟨rfl, -⟩ := of_create built
  have empty : ∀ priority, slot? ⟨.replicate _ none, default, numberOfStates, false, default,
      false⟩ priority = none := by
    intro priority
    rw [slot?, Option.bind_eq_none_iff]
    intro slot _
    exact Vector.getElem_replicate slot.isLt
  constructor
  · rfl
  · rfl
  · exact empty
  · rfl
  · rcases resolve_cases ⟨.replicate _ none, default, numberOfStates, false, default, false⟩ with
      ⟨priority, value, -, occupied, -⟩ | ⟨-, -, resolved⟩
    · rw [empty priority] at occupied
      cases occupied
    · exact resolved.symm
  · exact fun step member => absurd member List.not_mem_nil
  · exact fun step member => absurd member List.not_mem_nil

section Step

variable {default : PointValue} {numberOfStates : Option UInt32} {steps : List LadderStep}
  {ladder : PriorityLadder} (follows : Follows default numberOfStates steps ladder)
include follows

/-- A property of all steps so far and of one more is one of all steps. -/
theorem Follows.accepted_concat {step : LadderStep}
    (last : step.answer.IsCommand ↔ step.operation.IsAcceptable default.kind numberOfStates) :
    ∀ other ∈ steps ++ [step], other.answer.IsCommand ↔
      other.operation.IsAcceptable default.kind numberOfStates := by
  intro other member
  rcases List.mem_append.mp member with earlier | here
  · exact follows.accepted other earlier
  · cases List.mem_singleton.mp here
    exact last

/-- An accepted command leaves something in a slot or sets the default. -/
theorem Follows.command {operation : Operation} {changed : PriorityLadder}
    (acceptable : operation.IsAcceptable default.kind numberOfStates)
    (counted : changed.numberOfStates = ladder.numberOfStates)
    (kind : changed.kind = ladder.kind) (service : changed.outOfService = ladder.outOfService)
    (slots : ∀ priority, changed.slot? priority =
      (written? priority ⟨ladder, operation, (ladder.commanded changed).1,
        (ladder.commanded changed).2⟩).getD (ladder.slot? priority))
    (fallback : changed.relinquishDefault =
      (defaulted? ⟨ladder, operation, (ladder.commanded changed).1,
        (ladder.commanded changed).2⟩).getD ladder.relinquishDefault) :
    Follows default numberOfStates
      (steps ++ [⟨ladder, operation, (ladder.commanded changed).1,
        (ladder.commanded changed).2⟩])
      (ladder.commanded changed).2 := by
  constructor
  · simpa using counted.trans follows.counted
  · rw [commanded_ladder]
    exact kind.trans follows.kind
  · intro priority
    rw [getLast?_writes_concat, ← follows.slots, ← slots, commanded_ladder]
    rfl
  · rw [getLast?_defaults_concat, ← follows.fallback, ← fallback, commanded_ladder]
  · rw [commanded_ladder]
    rfl
  · exact follows.accepted_concat (iff_of_true ⟨_, commanded_answer ladder changed⟩ acceptable)
  · intro step member command answered
    rcases List.mem_append.mp member with earlier | here
    · exact follows.answered step earlier command answered
    · cases List.mem_singleton.mp here
      rw [commanded_answer] at answered
      cases answered
      rw [commanded_ladder, service]
      rfl

/-- Anything else leaves the slots, the default and the cached value alone. -/
theorem Follows.other {step : LadderStep} (refused : ¬ step.answer.IsCommand)
    (unacceptable : ¬ step.operation.IsAcceptable default.kind numberOfStates)
    (counted : step.after.numberOfStates = ladder.numberOfStates)
    (slots : step.after.slots = ladder.slots)
    (fallback : step.after.relinquishDefault = ladder.relinquishDefault)
    (cached : step.after.cachedValue = ladder.cachedValue) :
    Follows default numberOfStates (steps ++ [step]) step.after := by
  obtain ⟨noSlot, noDefault⟩ := left_of_not_command refused
  constructor
  · exact counted.trans follows.counted
  · have sameKind : step.after.kind = ladder.kind := congrArg PointValue.kind fallback
    exact sameKind.trans follows.kind
  · intro priority
    rw [getLast?_writes_concat, noSlot priority, Option.getD_none, ← follows.slots, slot?, slots]
    rfl
  · rw [getLast?_defaults_concat, noDefault, Option.getD_none, ← follows.fallback, fallback]
  · rw [cached, follows.cached, resolve, resolve, slots, fallback]
  · exact follows.accepted_concat (iff_of_false refused unacceptable)
  · intro other member command answered
    rcases List.mem_append.mp member with earlier | here
    · exact follows.answered other earlier command answered
    · cases List.mem_singleton.mp here
      exact absurd ⟨command, answered⟩ refused

/-- What a ladder follows it follows through every operation. -/
theorem Follows.step (matched : IsMatched default.kind numberOfStates) (operation : Operation) :
    Follows default numberOfStates (steps ++ [stepOf perform ladder operation])
      (ladder.perform operation).2 := by
  have here : IsMatched ladder.kind ladder.numberOfStates := by
    rw [follows.kind, follows.counted]
    exact matched
  have done := performed here operation
  rw [stepOf]
  generalize ladder.perform operation = result at done ⊢
  cases done with
  | @stored _ priority held slot acceptable writes place =>
      rw [follows.kind, follows.counted] at acceptable
      refine follows.command acceptable rfl rfl rfl ?_ ?_
      · intro other
        rw [slot?_set ladder place held other, written?, commanded_answer, writes]
        dsimp only
        split <;> rfl
      · cases operation with
        | setRelinquishDefault => cases writes
        | write | relinquish | setOutOfService | takeChanged => rfl
  | @defaulted value fits =>
      rw [follows.kind, follows.counted] at fits
      have sameKind : value.kind = ladder.kind := fits.1.trans follows.kind.symm
      exact follows.command fits rfl sameKind rfl (fun _ => rfl) rfl
  | refused error command unacceptable =>
      rw [follows.kind, follows.counted] at unacceptable
      exact follows.other (by rintro ⟨command, ⟨⟩⟩) unacceptable rfl rfl rfl rfl
  | flipped | kept | asked => exact follows.other (by rintro ⟨command, ⟨⟩⟩) id rfl rfl rfl rfl

end Step

/-- A ladder follows its history over every run. -/
theorem follows_after {default : PointValue} {numberOfStates : Option UInt32}
    {start : PriorityLadder} (built : create default numberOfStates = .ok start)
    (operations : List Operation) :
    Follows default numberOfStates (start.history operations) (start.after operations) :=
  history_invariant (Follows default numberOfStates) (.create built)
    (fun _ _ operation follows => follows.step (of_create built).2 operation) operations

/-! ## The last write wins -/

/-- Nothing is ever accepted at the reserved priority. -/
theorem Follows.slot?_reserved {default : PointValue} {numberOfStates : Option UInt32}
    {steps : List LadderStep} {ladder : PriorityLadder}
    (follows : Follows default numberOfStates steps ladder) : ladder.slot? 6 = none := by
  have unwritten : writes 6 steps = [] := by
    rw [writes, List.filterMap_eq_nil_iff]
    intro step member
    rw [written?]
    split
    · next target held answered writes =>
        have acceptable := (follows.accepted step member).mp ⟨_, answered⟩
        have commandable : IsCommandable target := by
          cases operation : step.operation with
          | write priority value =>
              rw [operation] at acceptable writes
              cases writes
              exact acceptable.1
          | relinquish priority =>
              rw [operation] at acceptable writes
              cases writes
              exact acceptable
          | setRelinquishDefault | setOutOfService | takeChanged =>
              rw [operation] at writes
              cases writes
        exact if_neg commandable.2.2
    · rfl
  rw [follows.slots, unwritten]
  rfl

/-- The slots are what the priorities from 1 to 16 hold. -/
theorem slots_ext {left right : PriorityLadder}
    (same : ∀ priority, left.slot? priority = right.slot? priority) : left.slots = right.slots := by
  ext slot inside : 1
  have place : slotOf? (UInt8.ofNat (slot + 1)) = some ⟨slot, inside⟩ := by
    have bounded : slot < 16 := inside
    rw [slotOf?_eq_some_iff, UInt8.toNat_ofNat']
    dsimp only
    omega
  have agree := same (UInt8.ofNat (slot + 1))
  rw [slot?, slot?, place] at agree
  exact agree

/-- The slots of a ladder hold the last value that was accepted at each priority, if it
was not given up, whatever was accepted in between at other priorities. The first slot in
use gives the value, and else the last default does. -/
theorem last_write_wins {default : PointValue} {numberOfStates : Option UInt32}
    {start : PriorityLadder} (built : create default numberOfStates = .ok start)
    (operations : List Operation) :
    (∀ step ∈ start.history operations, step.answer.IsCommand ↔
      step.operation.IsAcceptable default.kind numberOfStates) ∧
    (∀ priority, (start.after operations).slot? priority =
      (writes priority (start.history operations)).getLast?.join) ∧
    (start.after operations).slot? 6 = none ∧
    (∀ others, (∀ priority, writes priority (start.history others) =
        writes priority (start.history operations)) ->
      (start.after others).slots = (start.after operations).slots) ∧
    ((∃ priority value, (start.after operations).activePriority? = some priority ∧
        (start.after operations).slot? priority = some value ∧
        (∀ higher, higher < priority -> (start.after operations).slot? higher = none) ∧
        (start.after operations).resolve = value) ∨
      ((start.after operations).activePriority? = none ∧
        (∀ priority, (start.after operations).slot? priority = none) ∧
        (start.after operations).resolve =
          (defaults (start.history operations)).getLast?.getD default)) ∧
    (∀ step ∈ start.history operations, ∀ command, step.answer = .command command ->
      command = ⟨step.before.resolve, step.after.resolve, !step.before.outOfService⟩) ∧
    (start.after operations).cachedValue = (start.after operations).resolve := by
  have follows := follows_after built operations
  refine ⟨follows.accepted, follows.slots, follows.slot?_reserved, ?_, ?_, follows.answered,
    follows.cached⟩
  · intro others same
    refine slots_ext fun priority => ?_
    rw [(follows_after built others).slots, follows.slots, same priority]
  · rw [← follows.fallback]
    exact resolve_cases _

/-- A fan with five speeds, which nobody commands. -/
def idleFan : PriorityLadder :=
  ⟨.replicate _ none, .multiState 1, some 5, false, .multiState 1, false⟩

/-- Speeds are commanded at four priorities, two of them in vain: one is reserved, and
there is no ninth speed. Then the highest priority is given up. -/
def fanRun : List Operation :=
  [.write 10 (.value (.multiState 2)), .write 6 (.value (.multiState 5)),
    .write 8 (.value (.multiState 3)), .setOutOfService true,
    .write 16 (.value (.multiState 9)), .setRelinquishDefault (.multiState 4), .relinquish 8]

/-- The fan runs at the speed of priority 10: the others were refused or given up. -/
theorem fanRun_last_write_wins :
    create (.multiState 1) (some 5) = .ok idleFan ∧
    (idleFan.after fanRun).slot? 10 = some (.multiState 2) ∧
    (idleFan.after fanRun).slot? 8 = none ∧ (idleFan.after fanRun).slot? 6 = none ∧
    (idleFan.after fanRun).cachedValue = .multiState 2 := by
  have built : create (.multiState 1) (some 5) = .ok idleFan := rfl
  obtain ⟨-, slots, reserved, -, -, -, cached⟩ := last_write_wins built fanRun
  have resolved : (idleFan.after fanRun).resolve = .multiState 2 := by decide
  refine ⟨built, ?_, ?_, reserved, cached.trans resolved⟩
  · rw [slots 10]
    decide
  · rw [slots 8]
    decide

end Annunciator.PriorityLadder
