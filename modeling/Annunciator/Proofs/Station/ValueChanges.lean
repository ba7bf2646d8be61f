import Annunciator.Proofs.Point.Parts
import Annunciator.Proofs.Station.Publications
import Mathlib.Data.List.DropRight

/-!
# Changes of value on the bus

A tick publishes the value of an object exactly if a command changed it, or its service
flag was switched, since the tick before. Who keeps a copy of what is published therefore
has the values of all objects right after every tick. The proof follows one object: its
ladder holds back what happened since the last tick, and the copy holds the rest.
-/

namespace Annunciator

/-! ## New points -/

/-- A table that was filled with new points, one after the other. -/
structure PointTable.IsNew (table : PointTable) : Prop where
  filled : table.Filled
  built : ∀ point ∈ table.points.values,
    ∃ description : PointDescription, description.build = .ok point

namespace Station

/-- A station as it is set up: one table for every type, with new points in all of them. -/
structure IsAssembled (station : Station) : Prop where
  single : station.IsSingle
  new : ∀ table ∈ station.tables, table.IsNew

/-! ## What is heard of an object -/

/-- The value and the service flag that a published event tells of. -/
def valueChange? (event : BusEvent) : Option (PointValue × Bool) :=
  match event.occurrence with
  | .valueChanged value flags => some (value, flags.outOfService)
  | .stateTransition .. | .ackNotification .. => none

/-- The value and the service flag that an effect publishes for an object. -/
def published? (object : ObjectId) : Effect -> Option (PointValue × Bool)
  | .publish event => if event.object = object then valueChange? event else none
  | _ => none

/-- The changes of value that are published for an object, oldest first. -/
def valueChanges (object : ObjectId) (effects : List Effect) : List (PointValue × Bool) :=
  effects.filterMap (published? object)

/-- The copy of a listener that overwrites it with every change. -/
def heard (object : ObjectId) (copy : PointValue × Bool) (effects : List Effect) :
    PointValue × Bool :=
  (valueChanges object effects).foldl (fun _ latest => latest) copy

/-- The value and the service flag of an object, as far as the object exists. -/
def value? (station : Station) (object : ObjectId) : Option PointValue :=
  (station.ladder? object).map (·.resolve)

def service? (station : Station) (object : ObjectId) : Option Bool :=
  (station.ladder? object).map (·.outOfService)

/-- A step changes an object if it is an accepted command after which the value of the
object is another, or a switch of its service flag to the other position. -/
def Changes (object : ObjectId) (step : StationStep) : Prop :=
  (∃ asked value, step.operation.command? = some (object, asked) ∧
    step.answer.1 = .value value ∧ step.after.value? object ≠ step.before.value? object) ∨
  (∃ value, step.operation = .setOutOfService object value ∧
    step.after.service? object ≠ step.before.service? object)

/-- The steps since the last tick, or all of them if there was none. -/
def sinceTick (steps : List StationStep) : List StationStep :=
  steps.rtakeWhile (·.operation ≠ .tick)

/-! ## Silence -/

section Silence

variable {object : ObjectId}

theorem valueChanges_append (earlier later : List Effect) :
    valueChanges object (earlier ++ later) =
      valueChanges object earlier ++ valueChanges object later :=
  List.filterMap_append

theorem heard_append (copy : PointValue × Bool) (earlier later : List Effect) :
    heard object copy (earlier ++ later) = heard object (heard object copy earlier) later := by
  rw [heard, valueChanges_append, List.foldl_append]
  rfl

/-- What is heard of an object is told by the events that are published about it. -/
theorem valueChanges_eq (effects : List Effect) :
    valueChanges object effects =
      (eventsOf effects).filterMap fun event =>
        if event.object = object then valueChange? event else none := by
  rw [valueChanges, eventsOf, List.filterMap_filterMap]
  congr 1
  funext effect
  cases effect <;> rfl

/-- The records of a tick are not about values. -/
theorem valueChange?_ofRecord (record : EventRecord) : valueChange? (.ofRecord record) = none := by
  cases ack : record.isAckNotification <;> simp [valueChange?, BusEvent.ofRecord, ack]

/-- Only a tick publishes changes of value. -/
theorem valueChanges_perform {station : Station} {operation : Operation}
    (noTick : operation ≠ .tick) :
    valueChanges object (perform operation station).effects = [] := by
  rw [valueChanges_eq, eventsOf_perform noTick, List.filterMap_nil]

/-- A tick publishes for an object what its ladder noticed. -/
theorem valueChanges_tick {station : Station} (inOrder : station.InOrder) :
    valueChanges object (perform .tick station).effects =
      match station.ladder? object with
      | some ladder => if ladder.changed then [(ladder.resolve, ladder.outOfService)] else []
      | none => [] := by
  have one := congrArg (List.filterMap valueChange?) (changes_of_object inOrder.proper object)
  rw [List.filterMap_filter] at one
  simp only [decide_eq_true_eq] at one
  rw [valueChanges_eq, eventsOf_tick, List.filterMap_append, List.filterMap_map]
  simp only [Function.comp_def, valueChange?_ofRecord, ite_self, List.filterMap_none,
    List.append_nil]
  refine one.trans ?_
  rw [reportedPoint?_eq inOrder.single, ladder?]
  cases station.point? object with
  | none => rfl
  | some point =>
      rw [Option.bind_some, Option.map_some, change_report]
      dsimp only
      cases point.ladder.changed <;> rfl

end Silence

/-! ## What a step does to an object -/

section Changes

variable {object : ObjectId} {step : StationStep}

/-- A step after which the ladder of an object is the same does not change the object. -/
theorem not_changes_of_same (same : step.after.ladder? object = step.before.ladder? object) :
    ¬ Changes object step := by
  rintro (⟨asked, value, -, -, differs⟩ | ⟨value, -, differs⟩)
  · exact differs (by rw [value?, value?, same])
  · exact differs (by rw [service?, service?, same])

variable {before after : PriorityLadder} (wasBefore : step.before.ladder? object = some before)
  (isAfter : step.after.ladder? object = some after)
include wasBefore isAfter

/-- An accepted command changes an object if the value is another. -/
theorem changes_command_iff {asked : PriorityLadder.Operation} {value : PointValue}
    (commands : step.operation.command? = some (object, asked))
    (answers : step.answer.1 = .value value) :
    Changes object step ↔ after.resolve ≠ before.resolve := by
  have differs : step.after.value? object ≠ step.before.value? object ↔
      after.resolve ≠ before.resolve := by
    rw [value?, value?, wasBefore, isAfter, Option.map_some, Option.map_some, Ne, Option.some.injEq]
  rw [← differs]
  constructor
  · rintro (⟨-, -, -, -, changed⟩ | ⟨flag, asks, -⟩)
    · exact changed
    · rw [asks] at commands
      cases commands
  · exact fun changed => .inl ⟨asked, value, commands, answers, changed⟩

/-- A switch of the service flag changes an object if the position is another. -/
theorem changes_service_iff {value : Bool} (asks : step.operation = .setOutOfService object value) :
    Changes object step ↔ after.outOfService ≠ before.outOfService := by
  have differs : step.after.service? object ≠ step.before.service? object ↔
      after.outOfService ≠ before.outOfService := by
    rw [service?, service?, wasBefore, isAfter, Option.map_some, Option.map_some, Ne,
      Option.some.injEq]
  rw [← differs]
  constructor
  · rintro (⟨asked, -, commands, -⟩ | ⟨-, -, changed⟩)
    · rw [asks] at commands
      cases commands
    · exact changed
  · exact fun changed => .inr ⟨value, asks, changed⟩

end Changes

/-- What a step between ticks does to the ladder of an object. -/
structure Noticed (object : ObjectId) (step : StationStep) (before after : PriorityLadder) :
    Prop where
  settled : after.Settled
  noticed : after.changed = true ↔ before.changed = true ∨ Changes object step
  kept : ¬ Changes object step ->
    after.resolve = before.resolve ∧ after.outOfService = before.outOfService

section Steps

variable {station : Station} (single : station.IsSingle) {object : ObjectId}
include single

/-- Nothing changes an object that does not exist. -/
theorem absent_step (absent : station.ladder? object = none) (operation : Operation) :
    (perform operation station).state.ladder? object = none := by
  by_cases ticks : operation = .tick
  · rw [ticks, ladder?_tick single, absent, Option.map_none]
  · cases laddered single ticks with
    | same ladders => rw [ladders, absent]
    | commanded _ _ known _ ladders | served _ known ladders =>
        rw [ladders, if_neg, absent]
        rintro rfl
        rw [absent] at known
        cases known

/-- Between ticks the ladder of an object notices exactly the steps that change the object. -/
theorem noticed_step {ladder : PriorityLadder} (known : station.ladder? object = some ladder)
    (settled : ladder.Settled) {operation : Operation} (noTick : operation ≠ .tick) :
    ∃ after, (perform operation station).state.ladder? object = some after ∧
      Noticed object (stepOf carryOut station operation) ladder after := by
  -- A step is quiet about an object whose ladder it leaves alone, be it that it concerns another
  -- object or none.
  have unchanged : (perform operation station).state.ladder? object = station.ladder? object ->
      ∃ after, (perform operation station).state.ladder? object = some after ∧
        Noticed object (stepOf carryOut station operation) ladder after := fun same => by
    have quiet : ¬ Changes object (stepOf carryOut station operation) :=
      not_changes_of_same same
    exact ⟨ladder, same.trans known, settled, (or_iff_left quiet).symm, fun _ => ⟨rfl, rfl⟩⟩
  cases laddered single noTick with
  | same ladders => exact unchanged (ladders object)
  | @commanded target _ _ _ after commands answers there accepted ladders =>
      by_cases here : target = object
      · subst here
        cases known.symm.trans there
        have isAfter := (ladders target).trans (if_pos rfl)
        obtain ⟨stillSettled, sameService, noticed⟩ := settled.command accepted
        have changes : Changes target (stepOf carryOut station operation) ↔ _ :=
          changes_command_iff known isAfter commands answers
        rw [← changes] at noticed
        refine ⟨after, isAfter, stillSettled, noticed, fun quiet => ⟨?_, sameService⟩⟩
        exact not_not.mp (changes.not.mp quiet)
      · exact unchanged ((ladders object).trans (if_neg here))
  | @served target value _ asks there ladders =>
      by_cases here : target = object
      · subst here
        cases known.symm.trans there
        have isAfter := (ladders target).trans (if_pos rfl)
        obtain ⟨stillSettled, noticed⟩ := settled.setOutOfService value
        have changes : Changes target (stepOf carryOut station operation) ↔ _ :=
          changes_service_iff known isAfter asks
        rw [← changes] at noticed
        refine ⟨_, isAfter, stillSettled, noticed, fun quiet => ⟨?_, ?_⟩⟩
        · exact ladder.resolve_setOutOfService value
        · exact not_not.mp (changes.not.mp quiet)
      · exact unchanged ((ladders object).trans (if_neg here))

end Steps

/-! ## What a listener knows -/

/-- How the ladder of an object and the copy of a listener share what happened so far. -/
structure Followed (object : ObjectId) (copy : PointValue × Bool) (steps : List StationStep)
    (ladder : PriorityLadder) : Prop where
  settled : ladder.Settled
  pending : ladder.changed = true ↔ ∃ step ∈ sinceTick steps, Changes object step
  current : ladder.changed = false ->
    heard object copy (steps.flatMap (·.answer.2)) = (ladder.resolve, ladder.outOfService)

theorem sinceTick_concat_tick (steps : List StationStep) {step : StationStep}
    (ticks : step.operation = .tick) : sinceTick (steps ++ [step]) = [] :=
  List.rtakeWhile_concat_neg _ _ _ (by simp [ticks])

theorem sinceTick_concat (steps : List StationStep) {step : StationStep}
    (noTick : step.operation ≠ .tick) :
    sinceTick (steps ++ [step]) = sinceTick steps ++ [step] :=
  List.rtakeWhile_concat_pos _ _ _ (by simp [noTick])

section Followed

variable {object : ObjectId} {copy : PointValue × Bool} {steps : List StationStep}
  {station : Station} {ladder : PriorityLadder} (followed : Followed object copy steps ladder)
  (inOrder : station.InOrder) (known : station.ladder? object = some ladder)
include followed inOrder known

/-- After a tick there is nothing that a listener has not heard of. -/
theorem Followed.heard_tick :
    heard object copy (steps.flatMap (·.answer.2) ++ (perform .tick station).effects) =
      (ladder.resolve, ladder.outOfService) := by
  rw [heard_append, heard, valueChanges_tick inOrder, known]
  dsimp only
  split
  · rfl
  · next quiet => exact followed.current (Bool.eq_false_iff.mpr quiet)

/-- Every operation keeps ladder and copy together: what a tick finds noticed is published by
it, and what happens between ticks waits in the flag. -/
theorem Followed.step (operation : Operation) :
    ∃ after, (perform operation station).state.ladder? object = some after ∧
      Followed object copy (steps ++ [stepOf carryOut station operation]) after := by
  by_cases ticks : operation = .tick
  · subst ticks
    refine ⟨ladder.takeChanged.2, by rw [ladder?_tick inOrder.single, known, Option.map_some],
      followed.settled.takeChanged, ?_, fun _ => ?_⟩
    · rw [sinceTick_concat_tick _ rfl]
      simp [PriorityLadder.takeChanged]
    · rw [List.flatMap_append, List.flatMap_singleton]
      exact followed.heard_tick inOrder known
  · obtain ⟨after, isAfter, done⟩ := noticed_step inOrder.single known followed.settled ticks
    refine ⟨after, isAfter, done.settled, ?_, fun quiet => ?_⟩
    · rw [sinceTick_concat _ ticks, done.noticed, followed.pending]
      simp only [List.mem_append, List.mem_singleton, or_and_right, exists_or, exists_eq_left]
    · have silent : valueChanges object (perform operation station).effects = [] :=
        valueChanges_perform ticks
      have nothing := done.noticed.not.mp (Bool.eq_false_iff.mp quiet)
      rw [not_or] at nothing
      obtain ⟨sameValue, sameService⟩ := done.kept nothing.2
      rw [List.flatMap_append, List.flatMap_singleton, heard_append]
      change heard object _ (perform operation station).effects = _
      rw [heard, silent, followed.current (Bool.eq_false_iff.mpr nothing.1), sameValue, sameService]
      rfl

end Followed

/-! ## Whole runs -/

section Assembled

variable {station : Station} (assembled : station.IsAssembled)
include assembled

/-- A new ladder has nothing to tell. -/
theorem IsAssembled.followed {object : ObjectId} {built : Point}
    (known : station.point? object = some built) :
    Followed object (built.presentValue, false) [] built.ladder := by
  rw [point?_eq assembled.single] at known
  obtain ⟨table, found, there⟩ := Option.bind_eq_some_iff.mp known
  have member := (SortedMap.get?_eq_some_iff _ _ _).mp there
  obtain ⟨description, isBuilt⟩ :=
    (assembled.new table (List.mem_of_find?_eq_some found)).built built (List.mem_map_of_mem member)
  obtain ⟨settled, quiet, inService⟩ := PointDescription.of_build isBuilt
  refine ⟨settled, by simp [quiet, sinceTick], fun _ => ?_⟩
  rw [inService]
  rfl

/-- A station that is assembled from new tables is in order. -/
theorem IsAssembled.inOrder : station.InOrder :=
  ⟨isProper_of_filled fun table member => (assembled.new table member).filled, assembled.single⟩

/-- An object that exists is followed through every run. -/
theorem IsAssembled.followed_after {object : ObjectId} {built : Point}
    (known : station.point? object = some built) (operations : List Operation) :
    (station.after operations).InOrder ∧
      ∃ ladder, (station.after operations).ladder? object = some ladder ∧
        Followed object (built.presentValue, false) (station.history operations) ladder := by
  refine history_invariant (fun steps (state : Station) => state.InOrder ∧
    ∃ ladder, state.ladder? object = some ladder ∧
      Followed object (built.presentValue, false) steps ladder) ?_ ?_ operations
  · exact ⟨assembled.inOrder, built.ladder, congrArg (Option.map Point.ladder) known,
      assembled.followed known⟩
  · rintro steps state operation ⟨inOrder, ladder, isLadder, followed⟩
    exact ⟨inOrder.perform operation, followed.step inOrder isLadder operation⟩

/-- An object that does not exist is never changed. -/
theorem IsAssembled.absent_after {object : ObjectId} (absent : station.point? object = none)
    (operations : List Operation) :
    (station.after operations).InOrder ∧ (station.after operations).ladder? object = none ∧
      ∀ step ∈ station.history operations, ¬ Changes object step := by
  refine history_invariant (fun steps (state : Station) => state.InOrder ∧
    state.ladder? object = none ∧ ∀ step ∈ steps, ¬ Changes object step) ?_ ?_ operations
  · exact ⟨assembled.inOrder, congrArg (Option.map Point.ladder) absent,
      fun _ member => nomatch member⟩
  · rintro steps state operation ⟨inOrder, nothing, quiet⟩
    have stillNothing := absent_step inOrder.single nothing operation
    refine ⟨inOrder.perform operation, stillNothing, fun step member => ?_⟩
    rcases List.mem_append.mp member with earlier | here
    · exact quiet step earlier
    · cases List.mem_singleton.mp here
      exact not_changes_of_same (stillNothing.trans nothing.symm)

/-- No change of value is lost or invented on the bus. After any run, a tick publishes at
most one change for an object, and publishes one if and only if a step since the last tick
changed the object. So a listener that starts with the value that the point of the object
was set up with has its value and its service flag after every tick. -/
theorem value_changes_of_history (operations : List Operation) (object : ObjectId) :
    (valueChanges object (perform .tick (station.after operations)).effects).length ≤ 1 ∧
    (valueChanges object (perform .tick (station.after operations)).effects ≠ [] ↔
      ∃ step ∈ sinceTick (station.history operations), Changes object step) ∧
    ∀ built, station.point? object = some built ->
      ∃ point, (run (operations ++ [.tick]) station).state.point? object = some point ∧
        heard object (built.presentValue, false) (run (operations ++ [.tick]) station).effects =
          (point.presentValue, point.ladder.outOfService) := by
  cases known : station.point? object with
  | none =>
      obtain ⟨inOrder, nothing, quiet⟩ := assembled.absent_after known operations
      rw [valueChanges_tick inOrder, nothing]
      refine ⟨Nat.zero_le 1, iff_of_false (not_not.mpr rfl) ?_, fun _ same => nomatch same⟩
      rintro ⟨step, recent, changes⟩
      exact quiet step ((List.rtakeWhile_suffix _ _).mem recent) changes
  | some built =>
      obtain ⟨inOrder, ladder, isLadder, followed⟩ := assembled.followed_after known operations
      refine ⟨?_, ?_, ?_⟩
      · rw [valueChanges_tick inOrder, isLadder]
        dsimp only
        split
        · exact Nat.le_refl 1
        · exact Nat.zero_le 1
      · rw [valueChanges_tick inOrder, isLadder, ← followed.pending]
        cases noticed : ladder.changed <;> simp [noticed]
      · rintro _ ⟨⟩
        have final : (run (operations ++ [.tick]) station).state =
            (perform .tick (station.after operations)).state := by
          rw [run_eq]
          exact stateAfter_concat carryOut station operations .tick
        have effects : (run (operations ++ [.tick]) station).effects =
            (station.history operations).flatMap (·.answer.2) ++
              (perform .tick (station.after operations)).effects := by
          rw [run_eq, history, historyOf_concat, List.flatMap_append, List.flatMap_singleton]
          rfl
        have ticked := ladder?_tick inOrder.single object
        rw [isLadder, Option.map_some] at ticked
        obtain ⟨point, there, same⟩ := Option.map_eq_some_iff.mp ticked
        refine ⟨point, by rw [final, there], ?_⟩
        rw [effects, followed.heard_tick inOrder isLadder, Point.presentValue, same]
        rfl

end Assembled

/-- A fan that can be switched on and off. -/
def fan : ObjectId := ⟨.binaryOutput, 1⟩

/-- The fan as it is set up. -/
def newFan : Point where
  id := fan
  name := "fan"
  notificationClass := 0
  ladder := ⟨.replicate _ none, .binary .inactive, none, false, .binary .inactive, false⟩
  alarm := .binary .active
  reliability := .noFaultDetected
  monitor := .create .standard

/-- A station with nothing but the fan. -/
def fanRoom : Station :=
  { bare ⟨9⟩ Timestamp.noon ⟨8, none⟩ with
    tables := [⟨.binaryOutput, (∅ : SortedMap _ _).insert 1 newFan⟩] }

/-- A value that is commanded and given up between two ticks is published once, although
the listener knows it already. -/
theorem fanRoom_value_changes :
    fanRoom.IsAssembled ∧
    valueChanges fan
      (perform .tick (fanRoom.after
        [.write fan 8 (.value (.binary .active)), .relinquish fan 8])).effects ≠ [] ∧
    fanRoom.point? fan = some newFan := by
  have assembled : fanRoom.IsAssembled := by
    refine ⟨by unfold IsSingle; decide, fun table member => ?_⟩
    cases List.mem_singleton.mp member
    have only : (PointTable.empty .binaryOutput).insert newFan = .ok _ := rfl
    refine ⟨.insert (.empty .binaryOutput) only, fun point listed => ?_⟩
    cases List.mem_singleton.mp listed
    exact ⟨{ PointDescription.of fan with name := some "fan" }, rfl⟩
  obtain ⟨-, published, -⟩ := value_changes_of_history assembled
    [.write fan 8 (.value (.binary .active)), .relinquish fan 8] fan
  refine ⟨assembled, published.mpr ?_, rfl⟩
  refine ⟨stepOf carryOut fanRoom (.write fan 8 (.value (.binary .active))),
    List.mem_of_getElem? (i := 0) rfl, .inl ⟨_, .binary .active, rfl, rfl, ?_⟩⟩
  decide

end Station

end Annunciator
