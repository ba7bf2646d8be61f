import Annunciator.Proofs.Monitor.History

/-!
# Replaying the transitions

The transitions that a monitor tells of are enough to know where it stands. They lead on
from one another, along few ways between the states, and each was enabled when it was made.
Nothing but a transition that is told changes the state, the moments and the wordings that
are kept, so whoever replays them has all of these. `Replayed` is what every step keeps.
-/

namespace Annunciator.Monitor

/-! ## What is replayed -/

/-- A transition as it is told, and the moment of its tick. -/
structure Move where
  origin : EventState
  target : EventState
  moment : Timestamp
  deriving DecidableEq, Repr

/-- The transition that a step tells of. -/
def Step.move? : Step -> Option Move
  | ⟨.tick _ _ now, .event (some (.transition origin target))⟩ => some ⟨origin, target, now⟩
  | _ => none

/-- The transitions that a history tells of, oldest first. -/
def moves (steps : List Step) : List Move := steps.filterMap Step.move?

/-- Transitions that lead from one state to another, each from where the one before it led. -/
inductive Path (start : EventState) : List Move -> EventState -> Prop where
  | stay : Path start [] start
  | go {earlier : List Move} {current : EventState} {move : Move}
      (before : Path start earlier current) (leaves : move.origin = current) :
      Path start (earlier ++ [move]) move.target

/-- The ways between the states. -/
def ways : List (EventState × EventState) :=
  [(.normal, .offnormal), (.offnormal, .normal), (.normal, .fault), (.offnormal, .fault),
    (.fault, .normal)]

/-- A fault is never left for off-normal, and no state for itself. -/
example : (.fault, .offnormal) ∉ ways ∧ ∀ state ∈ EventState.all, (state, state) ∉ ways := by
  decide

/-- The last of some transitions into the state that a kind ends in. -/
def lastInto? (kind : Transition) (made : List Move) : Option Move :=
  (made.filter (·.target = kind.target)).getLast?

/-- The kinds of transitions that an operation enables in the place of all others. -/
def Operation.enables? : Operation -> Option TransitionSet
  | .setEventEnable kinds => some kinds
  | .tick .. | .acknowledge .. | .setTimeDelay _ | .setNotifyType _ => none

/-- The kinds that were enabled last, or else those that the monitor was set up with. -/
def enabledAfter (reporting : Reporting) (steps : List Step) : TransitionSet :=
  (steps.filterMap (·.operation.enables?)).getLast?.getD reporting.eventEnable

/-! ## What one step adds -/

section Lists

variable (steps : List Step) (step : Step)

theorem moves_concat : moves (steps ++ [step]) = moves steps ++ step.move?.toList :=
  filterMap_concat Step.move? steps step

/-- The enabled kinds stay the same until a step enables others. -/
theorem enabledAfter_concat (reporting : Reporting) :
    enabledAfter reporting (steps ++ [step]) =
      step.operation.enables?.getD (enabledAfter reporting steps) := by
  rw [enabledAfter, getLast?_filterMap_concat, Option.getD_or, enabledAfter]

/-- The last transition of a kind is the new one if it is of this kind. -/
theorem lastInto?_concat (kind : Transition) (made : List Move) (move : Move) :
    lastInto? kind (made ++ [move]) =
      if move.target = kind.target then some move else lastInto? kind made := by
  rw [lastInto?, List.filter_append, lastInto?]
  by_cases into : move.target = kind.target <;> simp [into]

end Lists

/-- The end of a path is where its last transition led, or its start if there is none. -/
theorem Path.end_eq {start final : EventState} {made : List Move}
    (path : Path start made final) :
    final = (made.getLast?.map (·.target)).getD start := by
  cases path with
  | stay => rfl
  | go => rw [List.getLast?_concat, Option.map_some, Option.getD_some]

/-! ## What a tick can do -/

/-- A monitor is in a state that some kind of transition ends in. -/
def IsPlaced (monitor : Monitor) : Prop := ∃ kind : Transition, monitor.state = kind.target

/-- A monitor with the state, the moments and the wordings of another. -/
structure Stays (monitor after : Monitor) : Prop where
  state : after.state = monitor.state
  timestamps : after.timestamps = monitor.timestamps
  messages : after.messages = monitor.messages

/-- A tick either makes an enabled transition along one of the ways and tells of it, or it
tells of none and makes none. -/
inductive Moved (monitor : Monitor) (ackRequired : TransitionSet) (now : Timestamp) :
    Option MonitorEvent × Monitor -> Prop where
  | made {kind : Transition} (way : (monitor.state, kind.target) ∈ ways)
      (enabled : monitor.reporting.eventEnable.contains kind = true) :
      Moved monitor ackRequired now (monitor.fire kind ackRequired now)
  | stayed {event : Option MonitorEvent} {after : Monitor}
      (silent : ∀ origin target, event ≠ some (.transition origin target))
      (stays : monitor.Stays after) : Moved monitor ackRequired now (event, after)

/-- Every tick of a placed monitor does one of the two, so it never makes a transition that is
not enabled or not along one of the ways. -/
theorem moved {monitor : Monitor} (placed : monitor.IsPlaced) (conditions : Conditions)
    (ackRequired : TransitionSet) (now : Timestamp) :
    Moved monitor ackRequired now (monitor.tick conditions ackRequired now) := by
  have done := monitor.ticked conditions ackRequired now
  generalize monitor.tick conditions ackRequired now = result at done ⊢
  cases done with
  | failed idle raised =>
      obtain ⟨-, elsewhere, enabled⟩ := raised
      refine .made ?_ enabled
      obtain ⟨kind, here⟩ := placed
      rw [here] at elsewhere ⊢
      cases kind with
      | toFault => exact absurd rfl elsewhere
      | toOffnormal | toNormal => decide
  | recovered idle cleared =>
      obtain ⟨-, inFault, enabled⟩ := cleared
      refine .made ?_ enabled
      rw [inFault]
      decide
  | @elapsed idle noFault kind exit leaving last =>
      have enabled := (Bool.and_eq_true_iff.mp leaving).2
      rw [exit, Option.any_some] at enabled
      refine .made ?_ enabled
      cases here : monitor.state with
      | normal | offnormal =>
          rw [here] at exit
          cases exit
          decide
      | fault | highLimit | lowLimit | lifeSafetyAlarm =>
          rw [here] at exit
          cases exit
  | announced | counted | reloaded | rested =>
      exact .stayed (fun _ _ told => nomatch told) ⟨rfl, rfl, rfl⟩

/-! ## What every step keeps -/

/-- Whether the transition of a step, if it made one, went along one of the ways and was
enabled by what came before. -/
def IsPermitted (reporting : Reporting) (earlier : List Step) (step : Step) : Prop :=
  ∀ move, step.move? = some move -> (move.origin, move.target) ∈ ways ∧
    ∃ kind : Transition, move.target = kind.target ∧
      (enabledAfter reporting earlier).contains kind = true

/-- A monitor stands where the transitions of its history lead to. -/
structure Replayed (reporting : Reporting) (steps : List Step) (monitor : Monitor) : Prop where
  enabled : monitor.reporting.eventEnable = enabledAfter reporting steps
  placed : monitor.IsPlaced
  path : Path .normal (moves steps) monitor.state
  permitted : ∀ earlier step later, steps = earlier ++ step :: later ->
    IsPermitted reporting earlier step
  timestamps : ∀ kind, monitor.timestamps.get kind =
    (lastInto? kind (moves steps)).map (·.moment)
  messages : ∀ kind, monitor.messages.get kind =
    ((lastInto? kind (moves steps)).map fun move =>
      transitionMessage move.origin move.target).getD ""

/-- A new monitor stands at the start of its path. -/
theorem Replayed.create (reporting : Reporting) :
    Replayed reporting [] (create reporting) where
  enabled := rfl
  placed := ⟨.toNormal, rfl⟩
  path := .stay
  permitted earlier step later split := by simp at split
  timestamps kind := PerTransition.get_replicate none kind
  messages kind := PerTransition.get_replicate "" kind

/-- What is permitted in a longer history was permitted before, or is its last step. -/
theorem permitted_concat {reporting : Reporting} {steps : List Step} {step : Step}
    (before : ∀ earlier step later, steps = earlier ++ step :: later ->
      IsPermitted reporting earlier step)
    (last : IsPermitted reporting steps step) (earlier : List Step) (other : Step)
    (later : List Step) (split : steps ++ [step] = earlier ++ other :: later) :
    IsPermitted reporting earlier other := by
  rcases List.eq_nil_or_concat' later with rfl | ⟨between, final, rfl⟩
  · obtain ⟨rfl, same⟩ := List.append_inj' split rfl
    cases same
    exact last
  · refine before earlier other between ?_
    rw [← List.cons_append, ← List.append_assoc] at split
    exact (List.append_inj' split rfl).1

section Replayed

variable {reporting : Reporting} {steps : List Step} {monitor : Monitor}
  (replayed : Replayed reporting steps monitor)
include replayed

/-- A step that tells of no transition leaves a monitor where it stands. -/
theorem Replayed.quiet {step : Step} {after : Monitor} (silent : step.move? = none)
    (stays : monitor.Stays after)
    (enables : after.reporting.eventEnable =
      step.operation.enables?.getD monitor.reporting.eventEnable) :
    Replayed reporting (steps ++ [step]) after := by
  have sameMoves : moves (steps ++ [step]) = moves steps := by
    rw [moves_concat, silent, Option.toList_none, List.append_nil]
  refine ⟨?_, ?_, ?_, ?_, ?_, ?_⟩
  · rw [enables, enabledAfter_concat, replayed.enabled]
  · rw [IsPlaced, stays.state]
    exact replayed.placed
  · rw [sameMoves, stays.state]
    exact replayed.path
  · refine permitted_concat replayed.permitted fun move told => ?_
    rw [silent] at told
    cases told
  · rw [sameMoves, stays.timestamps]
    exact replayed.timestamps
  · rw [sameMoves, stays.messages]
    exact replayed.messages

/-- A transition leads on from where the monitor stands, and takes the place of the last one
of its kind. -/
theorem Replayed.fire {kind : Transition} (way : (monitor.state, kind.target) ∈ ways)
    (enabled : monitor.reporting.eventEnable.contains kind = true) (conditions : Conditions)
    (ackRequired : TransitionSet) (now : Timestamp) :
    Replayed reporting
      (steps ++ [⟨.tick conditions ackRequired now,
        .event (monitor.fire kind ackRequired now).1⟩])
      (monitor.fire kind ackRequired now).2 := by
  have told : moves (steps ++ [⟨.tick conditions ackRequired now,
      .event (monitor.fire kind ackRequired now).1⟩]) =
        moves steps ++ [⟨monitor.state, kind.target, now⟩] := moves_concat _ _
  -- The moments and the wordings follow the last transition of each kind, and only its own kind
  -- has another one now.
  have last : ∀ other, lastInto? other (moves (steps ++ [⟨.tick conditions ackRequired now,
      .event (monitor.fire kind ackRequired now).1⟩])) =
        if kind = other then some ⟨monitor.state, kind.target, now⟩
        else lastInto? other (moves steps) := by
    intro other
    rw [told, lastInto?_concat]
    exact if_congr ⟨Transition.target_injective, congrArg Transition.target⟩ rfl rfl
  refine ⟨?_, ⟨kind, rfl⟩, ?_, ?_, fun other => ?_, fun other => ?_⟩
  · rw [enabledAfter_concat, fire_reporting]
    exact replayed.enabled
  · rw [told]
    exact replayed.path.go rfl
  · refine permitted_concat replayed.permitted fun move tells => ?_
    cases tells
    refine ⟨way, kind, rfl, ?_⟩
    rw [← replayed.enabled]
    exact enabled
  · rw [last, fire_timestamps]
    split
    · rfl
    · exact replayed.timestamps other
  · rw [last, fire_messages]
    split
    · rfl
    · exact replayed.messages other

/-- A tick extends the path by the transition that it makes; without one, everything stays where
it is. -/
theorem Replayed.tick (conditions : Conditions) (ackRequired : TransitionSet)
    (now : Timestamp) :
    Replayed reporting
      (steps ++ [⟨.tick conditions ackRequired now,
        .event (monitor.tick conditions ackRequired now).1⟩])
      (monitor.tick conditions ackRequired now).2 := by
  have sameReporting := monitor.reporting_tick conditions ackRequired now
  have done := moved replayed.placed conditions ackRequired now
  generalize monitor.tick conditions ackRequired now = result at done sameReporting ⊢
  cases done with
  | made way enabled => exact replayed.fire way enabled conditions ackRequired now
  | @stayed event after silent stays =>
      refine replayed.quiet ?_ stays (congrArg Reporting.eventEnable sameReporting)
      unfold Step.move?
      split
      · next same =>
          injection same with _ answers
          injection answers with event
          exact absurd event (silent _ _)
      · rfl

end Replayed

/-- A monitor stands where its history leads to after every run. -/
theorem replayed_after (reporting : Reporting) (operations : List Operation) :
    Replayed reporting ((create reporting).history operations)
      ((create reporting).after operations) := by
  refine invariant_of_step (fun _ => True) (Replayed reporting) (.create reporting) ?_ operations
    fun _ _ => trivial
  intro steps monitor operation _ replayed
  cases operation with
  | tick conditions ackRequired now => exact replayed.tick conditions ackRequired now
  | acknowledge state timestamp =>
      rcases monitor.perform_acknowledge_cases state timestamp with
        ⟨acks, accepted⟩ | ⟨answer, -, kept⟩
      · rw [accepted]
        exact replayed.quiet rfl ⟨rfl, rfl, rfl⟩ rfl
      · rw [kept]
        exact replayed.quiet rfl ⟨rfl, rfl, rfl⟩ rfl
  | setTimeDelay | setEventEnable | setNotifyType =>
      exact replayed.quiet rfl ⟨rfl, rfl, rfl⟩ rfl

/-! ## What the transitions say -/

/-- The transitions that a monitor tells of replay to where it stands. Whatever it was asked,
they are a path from normal to its state, each of them along one of the ways between states and
enabled when it was made; so its state is the target of the last one, and normal before the
first. And what it keeps of every kind are the moment and the wording of the last transition of
this kind, if there was one. -/
theorem transitions_replay (reporting : Reporting) (operations : List Operation) :
    Path .normal (moves ((create reporting).history operations))
      ((create reporting).after operations).state ∧
    ((create reporting).after operations).state =
      ((moves ((create reporting).history operations)).getLast?.map (·.target)).getD .normal ∧
    (∀ earlier step later,
      (create reporting).history operations = earlier ++ step :: later ->
        ∀ move, step.move? = some move -> (move.origin, move.target) ∈ ways ∧
          ∃ kind : Transition, move.target = kind.target ∧
            (enabledAfter reporting earlier).contains kind = true) ∧
    ∀ kind,
      ((create reporting).after operations).timestamps.get kind =
        (lastInto? kind (moves ((create reporting).history operations))).map (·.moment) ∧
      ((create reporting).after operations).messages.get kind =
        ((lastInto? kind (moves ((create reporting).history operations))).map fun move =>
          move.origin.name ++ " to " ++ move.target.name).getD "" := by
  have replayed := replayed_after reporting operations
  exact ⟨replayed.path, replayed.path.end_eq, replayed.permitted, fun kind =>
    ⟨replayed.timestamps kind, replayed.messages kind⟩⟩

end Annunciator.Monitor
