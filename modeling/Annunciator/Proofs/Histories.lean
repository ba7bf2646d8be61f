import Mathlib.Data.List.Induction

/-!
# Histories

Whatever is asked for one operation after the other has a history: what it was asked,
what it answered, and the states it had on the way. A claim about all that it ever does
is one about every step of every history, and it follows from what a single step keeps.
-/

namespace Annunciator

section Lists

variable {Item Value : Type} (told? : Item -> Option Value) (items : List Item) (item : Item)

/-- A new item adds what it tells to what the ones before it tell. -/
theorem filterMap_concat :
    (items ++ [item]).filterMap told? = items.filterMap told? ++ (told? item).toList := by
  rw [List.filterMap_append]
  cases tells : told? item <;> simp [tells]

/-- What is told last is what the new item tells, or else what was told last before. -/
theorem getLast?_filterMap_concat :
    ((items ++ [item]).filterMap told?).getLast? =
      (told? item).or (items.filterMap told?).getLast? := by
  rw [filterMap_concat, List.getLast?_append]
  cases told? item <;> rfl

end Lists

/-- One operation that was carried out, between the state it found and the one it left. -/
structure Step (State Operation Answer : Type) where
  before : State
  operation : Operation
  answer : Answer
  after : State

section Histories

variable {State Operation Answer : Type} (perform : State -> Operation -> Answer × State)

/-- The step that an operation makes. -/
def stepOf (state : State) (operation : Operation) : Step State Operation Answer where
  before := state
  operation := operation
  answer := (perform state operation).1
  after := (perform state operation).2

/-- The steps that some operations make, oldest first. -/
def historyOf (state : State) : List Operation -> List (Step State Operation Answer)
  | [] => []
  | operation :: rest =>
      stepOf perform state operation :: historyOf (perform state operation).2 rest

/-- The state that some operations lead to. -/
def stateAfter (state : State) (operations : List Operation) : State :=
  operations.foldl (fun state operation => (perform state operation).2) state

theorem stateAfter_append (state : State) (earlier later : List Operation) :
    stateAfter perform state (earlier ++ later) =
      stateAfter perform (stateAfter perform state earlier) later :=
  List.foldl_append

@[simp] theorem stateAfter_concat (state : State) (operations : List Operation)
    (operation : Operation) :
    stateAfter perform state (operations ++ [operation]) =
      (perform (stateAfter perform state operations) operation).2 :=
  stateAfter_append perform state operations [operation]

/-- The last step of a history starts where the ones before it led to. -/
@[simp] theorem historyOf_concat (state : State) (operations : List Operation)
    (operation : Operation) :
    historyOf perform state (operations ++ [operation]) =
      historyOf perform state operations ++
        [stepOf perform (stateAfter perform state operations) operation] := by
  induction operations generalizing state with
  | nil => rfl
  | cons first rest inductionHypothesis =>
      rw [List.cons_append, historyOf, inductionHypothesis]
      rfl

variable {perform}

/-- A relation between histories and states that holds at the start and is kept by every
operation holds after every run. -/
theorem history_invariant {start : State}
    (invariant : List (Step State Operation Answer) -> State -> Prop)
    (initial : invariant [] start)
    (step : ∀ steps state operation, invariant steps state ->
      invariant (steps ++ [stepOf perform state operation]) (perform state operation).2)
    (operations : List Operation) :
    invariant (historyOf perform start operations) (stateAfter perform start operations) := by
  induction operations using List.reverseRecOn with
  | nil => exact initial
  | append_singleton earlier operation inductionHypothesis =>
      rw [historyOf_concat, stateAfter_concat]
      exact step _ _ operation inductionHypothesis

/-- A part of the state that only some operations set is what the last of these set it to, or
what it was at the start. -/
theorem read_stateAfter {Value : Type} (read : State -> Value) {sets? : Operation -> Option Value}
    (step : ∀ state operation,
      read (perform state operation).2 = (sets? operation).getD (read state))
    (start : State) (operations : List Operation) :
    read (stateAfter perform start operations) =
      (operations.filterMap sets?).getLast?.getD (read start) := by
  induction operations using List.reverseRecOn with
  | nil => rfl
  | append_singleton earlier operation inductionHypothesis =>
      rw [stateAfter_concat, step, inductionHypothesis, getLast?_filterMap_concat, Option.getD_or]

end Histories

end Annunciator
