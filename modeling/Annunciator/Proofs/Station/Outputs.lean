import Annunciator.Proofs.Station.Requests
import Annunciator.Proofs.Station.ValueChanges

/-!
# What the output holds

A command drives the output only if it is accepted while the object is in service. Nothing
else does: an object that comes back into service is not driven until its next command. So
the output holds the value that the object had after the last command in service, and that is
its value as long as no command changed it out of service since.
-/

namespace Annunciator

/-- What was driven last for an object is found, whatever was driven before. -/
theorem OutputLog.last?_concat (applied : List (ObjectId × PointValue)) (target object : ObjectId)
    (value : PointValue) :
    OutputLog.last? ⟨applied ++ [(target, value)]⟩ object =
      if target = object then some value else OutputLog.last? ⟨applied⟩ object := by
  rw [last?, List.reverse_append, List.reverse_singleton, List.singleton_append,
    List.find?_cons, last?]
  by_cases same : target = object <;> simp [same]

namespace Station

/-! ## Driving steps -/

/-- A step drives an object if it is a command to it that is not refused, and the object was
in service. -/
def drives (object : ObjectId) (step : StationStep) : Bool :=
  step.operation.command?.any (·.1 = object) && !step.answer.1.isRefusal &&
    step.before.service? object = some false

/-- The last step that drove an object. -/
def lastDrive? (object : ObjectId) (steps : List StationStep) : Option StationStep :=
  (steps.filter (drives object)).getLast?

/-- The steps since then, or all of them if there was none. -/
def sinceDrive (object : ObjectId) (steps : List StationStep) : List StationStep :=
  steps.rtakeWhile fun step => !drives object step

/-- An operation that commands an object or switches its service flag. -/
def Operation.isPointCommand (operation : Operation) : Bool :=
  match operation.request? with
  | some (_, .ladder _) => true
  | _ => false

section Lists

variable {object : ObjectId} (steps : List StationStep) {step : StationStep}

theorem lastDrive?_concat_pos (driven : drives object step = true) :
    lastDrive? object (steps ++ [step]) = some step := by
  rw [lastDrive?, List.filter_append, List.filter_cons_of_pos driven, List.filter_nil,
    List.getLast?_concat]

theorem lastDrive?_concat_neg (quiet : drives object step = false) :
    lastDrive? object (steps ++ [step]) = lastDrive? object steps := by
  rw [lastDrive?, List.filter_append, List.filter_cons_of_neg (by simp [quiet]), List.filter_nil,
    List.append_nil, lastDrive?]

theorem sinceDrive_concat_neg (quiet : drives object step = false) :
    sinceDrive object (steps ++ [step]) = sinceDrive object steps ++ [step] :=
  List.rtakeWhile_concat_pos _ _ _ (by simp [quiet])

end Lists

/-! ## Single steps -/

section Steps

variable {station : Station}

/-- An accepted command drives the output if the point is in service. -/
theorem output_command {target : ObjectId} {point : Point} {result : Command}
    {ladder : PriorityLadder}
    {change : PriorityLadder -> Except ProtocolError (Command × PriorityLadder)}
    (known : station.point? target = some point)
    (granted : change point.ladder = .ok (result, ladder)) :
    (command target change station).state.output =
      if result.actuate then ⟨station.output.applied ++ [(target, result.new)]⟩
      else station.output := by
  rw [run_command known, granted]
  cases acts : result.actuate <;> simp [recordCommand, acts] <;> rfl

/-- Each of the operations that command a point drives the output by what its ladder answers. -/
theorem output_perform {operation : Operation} {target : ObjectId}
    {asked : PriorityLadder.Operation} {point : Point} {result : Command}
    {ladder : PriorityLadder} (commands : operation.command? = some (target, asked))
    (known : station.point? target = some point)
    (accepted : point.ladder.perform asked = (.command result, ladder)) :
    (perform operation station).state.output =
      if result.actuate then ⟨station.output.applied ++ [(target, result.new)]⟩
      else station.output := by
  have granted : ∀ outcome : Except ProtocolError (Command × PriorityLadder),
      point.ladder.answerCommand outcome = (.command result, ladder) ->
        outcome = .ok (result, ladder) := by
    rintro (error | ⟨_, _⟩) answered <;> cases answered
    rfl
  cases operation with
  | write _ priority value | relinquish _ priority =>
      cases commands
      rw [perform, Activity.run_map]
      exact output_command known (granted _ accepted)
  | setRelinquishDefault _ value =>
      cases commands
      have drives : (command target (·.setRelinquishDefault value) station).state.output = _ :=
        output_command known (granted _ accepted)
      rw [← drives, perform, Activity.run_map, setRelinquishDefault, Activity.run_bind]
      dsimp only
      split <;> rfl
  | setOutOfService | setReliability | setRecipients | acknowledge | tick | sweep | setClock =>
      cases commands

/-- A switch of the service flag never drives the output. -/
theorem output_setOutOfService (target : ObjectId) (value : Bool) :
    (perform (.setOutOfService target value) station).state.output = station.output := by
  rw [perform, Activity.run_map, setOutOfService, Activity.run_bind, Activity.run_get]
  cases known : station.point? target with
  | none => rfl
  | some point => rfl

/-- A command changes what the output holds for an object exactly if it drives the object, and
then the output holds the value that results. -/
theorem last?_command {operation : Operation} {target : ObjectId}
    {asked : PriorityLadder.Operation} (commands : operation.command? = some (target, asked))
    (object : ObjectId) :
    (perform operation station).state.output.last? object =
      if drives object (stepOf carryOut station operation) then
        (perform operation station).state.value? object
      else station.output.last? object := by
  -- `Carried` keeps silent about the output, so what becomes of it is said beforehand.
  have outputs : ∀ point result ladder, station.point? target = some point ->
      point.ladder.perform asked = (.command result, ladder) ->
        (perform operation station).state.output =
          if result.actuate then ⟨station.output.applied ++ [(target, result.new)]⟩
          else station.output :=
    fun _ _ _ known accepted => output_perform commands known accepted
  have done := carried station operation
  rw [stepOf, drives, carryOut]
  dsimp only
  rw [commands, Option.any_some]
  generalize perform operation station = outcome at done outputs ⊢
  cases done with
  | refused => simp [Answer.isRefusal]
  | @commanded _ _ _ point result ladder _ _ same known accepted records =>
      cases commands.symm.trans same
      obtain ⟨⟨output, settings, rfl⟩, -⟩ := records
      obtain ⟨value, actuates⟩ := PriorityLadder.of_command accepted
      rw [outputs point result ladder known accepted, actuates]
      by_cases here : target = object
      · subst here
        have served : station.service? target = some point.ladder.outOfService := by
          rw [service?, ladder?, known, Option.map_some, Option.map_some]
        have results : value? { station.setPoint target { point with ladder } with
            output, settings } target = some ladder.resolve :=
          congrArg (Option.map PriorityLadder.resolve)
            ((ladder?_setPoint known target).trans (if_pos rfl))
        rw [served, results]
        cases point.ladder.outOfService <;> simp [Answer.isRefusal, OutputLog.last?_concat, value]
      · cases point.ladder.outOfService <;> simp [OutputLog.last?_concat, here]
  | notAcked | served | trusted | acknowledged | listed | swept | ticked | timed => cases commands

/-- A point command changes what the output holds for an object exactly if it drives it. -/
theorem last?_perform {operation : Operation} (asks : operation.isPointCommand = true)
    (object : ObjectId) :
    (perform operation station).state.output.last? object =
      if drives object (stepOf carryOut station operation) then
        (perform operation station).state.value? object
      else station.output.last? object := by
  cases operation with
  | write | relinquish | setRelinquishDefault => exact last?_command rfl object
  | setOutOfService target value =>
      rw [output_setOutOfService]
      rfl
  | setReliability | setRecipients | acknowledge | tick | sweep | setClock => cases asks

end Steps

/-! ## Whole runs -/

/-- The output holds for every object the value that the object had after the last step that
drove it. -/
theorem last?_after {station : Station} (fresh : station.output = .empty)
    {operations : List Operation}
    (asks : ∀ operation ∈ operations, operation.isPointCommand = true) (object : ObjectId) :
    (station.after operations).output.last? object =
      (lastDrive? object (station.history operations)).bind (·.after.value? object) := by
  induction operations using List.reverseRecOn with
  | nil =>
      rw [after, stateAfter, List.foldl_nil, fresh]
      rfl
  | append_singleton earlier operation inductionHypothesis =>
      have before := inductionHypothesis fun other listed =>
        asks other (List.mem_append_left _ listed)
      have last : (perform operation (station.after earlier)).state.output.last? object = _ :=
        last?_perform (asks operation (List.mem_append_right _ (List.mem_singleton_self _))) object
      rw [after_concat, history_concat, last]
      split
      · next driven =>
          rw [lastDrive?_concat_pos _ driven]
          rfl
      · next quiet =>
          rw [lastDrive?_concat_neg _ (Bool.eq_false_iff.mpr quiet)]
          exact before

/-- Where no step since the last one that drove an object has changed its value, the object
still has the value that it had then. -/
theorem value?_sinceDrive (station : Station) (operations : List Operation) (object : ObjectId) :
    ∀ drive, lastDrive? object (station.history operations) = some drive ->
      (∀ step ∈ sinceDrive object (station.history operations),
        step.after.value? object = step.before.value? object) ->
      (station.after operations).value? object = drive.after.value? object := by
  refine history_invariant (fun steps (state : Station) =>
    ∀ drive, lastDrive? object steps = some drive ->
      (∀ step ∈ sinceDrive object steps,
        step.after.value? object = step.before.value? object) ->
      state.value? object = drive.after.value? object) (fun _ none => nomatch none) ?_ operations
  intro steps state operation inductionHypothesis drive last unchanged
  cases driven : drives object (stepOf carryOut state operation) with
  | true =>
      rw [lastDrive?_concat_pos _ driven] at last
      cases last
      rfl
  | false =>
      rw [lastDrive?_concat_neg _ driven] at last
      rw [sinceDrive_concat_neg _ driven] at unchanged
      refine (unchanged _ (List.mem_append_right _ (List.mem_singleton_self _))).trans ?_
      exact inductionHypothesis drive last fun step recent =>
        unchanged step (List.mem_append_left _ recent)

/-- The output follows the commands in service. Whatever point commands are given over a fresh
output, it holds for every object the value that the object had right after the last command
that was accepted in service. If there was one, and no step since has changed the value of the
object, that is the value of the object. -/
theorem output_holds_last_drive {station : Station} (fresh : station.output = .empty)
    {operations : List Operation}
    (asks : ∀ operation ∈ operations, operation.isPointCommand = true) (object : ObjectId) :
    (station.after operations).output.last? object =
      (lastDrive? object (station.history operations)).bind (·.after.value? object) ∧
    ((∃ step ∈ station.history operations, drives object step = true) ->
      (∀ step ∈ sinceDrive object (station.history operations),
        step.after.value? object = step.before.value? object) ->
      (station.after operations).output.last? object =
        (station.after operations).value? object) := by
  have holds := last?_after fresh asks object
  refine ⟨holds, fun ⟨step, listed, driven⟩ unchanged => ?_⟩
  cases last : lastDrive? object (station.history operations) with
  | none =>
      have undriven := List.getLast?_eq_none_iff.mp last
      exact absurd undriven (List.ne_nil_of_mem (List.mem_filter.mpr ⟨listed, driven⟩))
  | some drive =>
      rw [holds, last, Option.bind_some,
        value?_sinceDrive station operations object drive last unchanged]

/-- The fan is switched on, and taken out of service and back. -/
def serviced : List Operation :=
  [.write fan 8 (.value (.binary .active)), .setOutOfService fan true, .setOutOfService fan false]

/-- Nothing was changed out of service, and the output still holds the value of the fan. -/
theorem serviced_output_holds :
    (fanRoom.after serviced).output.last? fan = (fanRoom.after serviced).value? fan := by
  have asks : ∀ operation ∈ serviced, operation.isPointCommand = true := by decide
  have fresh : fanRoom.output = .empty := rfl
  refine (output_holds_last_drive fresh asks fan).2 ?_ (by decide)
  exact ⟨_, List.mem_of_getElem? (i := 0) rfl, by decide⟩

/-- The fan is switched on, and switched off while it is out of service. -/
def silentlyStopped : List Operation :=
  [.write fan 8 (.value (.binary .active)), .setOutOfService fan true, .relinquish fan 8,
    .setOutOfService fan false]

/-- The output does not follow the value of every object in service that was ever driven. The
fan is off and back in service, and the output still runs. -/
theorem not_output_follows_value :
    ¬ ∀ (station : Station), station.output = .empty ->
      ∀ operations : List Operation,
        (∀ operation ∈ operations, operation.isPointCommand = true) ->
        ∀ object : ObjectId, (station.after operations).service? object = some false ->
          (∃ step ∈ station.history operations, drives object step = true) ->
          (station.after operations).output.last? object =
            (station.after operations).value? object := by
  intro follows
  have stopped := follows fanRoom rfl silentlyStopped (by decide) fan (by decide)
    ⟨_, List.mem_of_getElem? (i := 0) rfl, by decide⟩
  revert stopped
  decide

end Station

end Annunciator
