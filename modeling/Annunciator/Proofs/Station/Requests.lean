import Annunciator.Proofs.Station.Points

/-!
# Requests to single objects

An operation that names an object is a request to its point. The station answers what the
point answers, puts the point that results in the place of the old one, and leaves all other
points alone. So what a request does follows from what one point does.
-/

namespace Annunciator.Station

/-! ## What is asked of a point -/

/-- The object that an operation names, and what its point is asked to do. -/
def Operation.request? : Operation -> Option (ObjectId × Point.Operation)
  | .write object priority value => some (object, .ladder (.write priority value))
  | .relinquish object priority => some (object, .ladder (.relinquish priority))
  | .setRelinquishDefault object value =>
      some (object, .ladder (.setRelinquishDefault value))
  | .setOutOfService object value => some (object, .ladder (.setOutOfService value))
  | .setReliability object reliability => some (object, .setReliability reliability)
  | .acknowledge request => some (request.object, .acknowledge request)
  | .setRecipients .. | .tick | .sweep | .setClock .. => none

/-- The object that an operation names. -/
def Operation.object? (operation : Operation) : Option ObjectId :=
  operation.request?.map Prod.fst

/-- What a station answers to a request that its point answers. -/
def Answer.ofPoint : Point.Answer -> Answer
  | .ladder (.command command) => .value command.new
  | .ladder (.refused error) => .refused error
  | .acked outcome => .acked outcome
  | .notAcked error => .notAcked error
  | .ladder (.changed _) | .ladder .done | .reliability _ | .record _ | .done => .done

/-- An answer that says that nothing was done. -/
def Answer.isRefusal : Answer -> Bool
  | .refused _ | .notAcked _ => true
  | .value _ | .recipients _ | .acked _ | .records _ | .missing _ | .done => false

/-- A command is a request to the ladder of its object. -/
theorem Operation.request?_of_command? {operation : Operation} {object : ObjectId}
    {asked : PriorityLadder.Operation} (commands : operation.command? = some (object, asked)) :
    operation.request? = some (object, .ladder asked) := by
  cases operation with
  | write | relinquish | setRelinquishDefault =>
      cases commands
      rfl
  | setOutOfService | setReliability | setRecipients | acknowledge | tick | sweep | setClock =>
      cases commands

/-- A point that refuses a request stays as it is. -/
theorem perform_of_isRefusal {point : Point} {asked : Point.Operation}
    (refuses : (Answer.ofPoint (point.perform asked).1).isRefusal = true) :
    (point.perform asked).2 = point := by
  have commanded : ∀ result : Except ProtocolError (Command × PriorityLadder),
      (Answer.ofPoint (.ladder (point.ladder.answerCommand result).1)).isRefusal = true ->
        (point.ladder.answerCommand result).2 = point.ladder := by
    rintro (error | ⟨command, after⟩) refused
    · rfl
    · cases refused
  cases asked with
  | ladder asked =>
      cases asked with
      | write | relinquish | setRelinquishDefault =>
          exact congrArg (fun ladder => { point with ladder }) (commanded _ refuses)
      | setOutOfService | takeChanged => cases refuses
  | acknowledge request =>
      rw [Point.perform] at refuses ⊢
      cases granted : point.acknowledge request with
      | error error => rfl
      | ok accepted =>
          rw [granted] at refuses
          cases refuses
  | setReliability | setNotificationClass | tick | setTimeDelay | setEventEnable
  | setNotifyType => cases refuses

/-- What can be wrong with an acknowledgment is its state or its time stamp. -/
theorem AckTracker.acknowledge_ne_unknown (tracker : AckTracker) (state current : EventState)
    (timestamp : EventTimeStamp) :
    tracker.acknowledge state current timestamp ≠ .error (.rejected .unknownObject) := by
  rw [AckTracker.acknowledge]
  dsimp only
  split
  · simp
  · split_ifs
    · simp
    · decide
    · split
      · decide
      · split_ifs
        · decide
        · simp

/-- So an acknowledgment that reaches a point is not refused for want of an object. -/
theorem acknowledge_ne_unknown (point : Point) (request : AckRequest) :
    point.acknowledge request ≠ .error (.rejected .unknownObject) := by
  intro refused
  refine AckTracker.acknowledge_ne_unknown point.monitor.acks request.state point.monitor.state
    request.timestamp ?_
  rw [Point.acknowledge, Monitor.acknowledge] at refused
  split at refused
  · next error answered =>
      cases refused
      exact answered
  · cases refused
  · cases refused

/-! ## Answers -/

section Answers

variable {station : Station}

/-- A command is answered by the ladder of its object. -/
theorem answer_command {object : ObjectId} {point : Point}
    (known : station.point? object = some point) {asked : PriorityLadder.Operation}
    {change : PriorityLadder -> Except ProtocolError (Command × PriorityLadder)}
    (performs : ∀ ladder, PriorityLadder.perform ladder asked =
      ladder.answerCommand (change ladder)) :
    answerOf .value (command object change station).answer =
      .ofPoint (point.perform (.ladder asked)).1 := by
  rw [Point.perform, performs, run_command known]
  cases change point.ladder <;> rfl

variable (single : station.IsSingle)
include single

/-- An acknowledgment is answered by the point that takes the commands, too. -/
theorem answer_acknowledge {request : AckRequest} {point : Point}
    (known : station.point? request.object = some point) :
    (perform (.acknowledge request) station).answer =
      .ofPoint (point.perform (.acknowledge request)).1 := by
  rw [point?_eq single] at known
  obtain ⟨table, found, there⟩ := Option.bind_eq_some_iff.mp known
  have reports : station.objectTable.find? request.object.objectType = some table := by
    rw [objectTable, ObjectTable.find?_ofTables, found]
  have passed : table.acknowledge request.object.number request =
      (point.acknowledge request).map fun accepted =>
        (accepted.1, table.set request.object.number accepted.2) := by
    simp only [PointTable.acknowledge, there]
    cases point.acknowledge request <;> rfl
  rw [perform, Activity.run_map, acknowledge, Activity.run_bind, Activity.run_get, Point.perform]
  simp only [reports, passed]
  cases point.acknowledge request <;> rfl

/-- An acknowledgment finds no object if and only if there is no point for it. -/
theorem answer_acknowledge_unknown_iff (request : AckRequest) :
    (perform (.acknowledge request) station).answer = .notAcked (.rejected .unknownObject) ↔
      (station.point? request.object).isSome = false := by
  cases known : station.point? request.object with
  | some point =>
      rw [answer_acknowledge single known, Point.perform]
      have differ := acknowledge_ne_unknown point request
      cases answered : point.acknowledge request with
      | ok granted => simp [Answer.ofPoint]
      | error error =>
          rw [answered] at differ
          simpa [Answer.ofPoint] using differ
  | none =>
      rw [point?_eq single, ← ObjectTable.find?_ofTables, ← objectTable] at known
      rw [perform, Activity.run_map, acknowledge, Activity.run_bind, Activity.run_get]
      cases found : station.objectTable.find? request.object.objectType with
      | none => simp [ackAnswerOf]
      | some table =>
          rw [found, Option.bind_some] at known
          simp [PointTable.acknowledge, known, ackAnswerOf]

/-- A request is answered by the point of its object. -/
theorem answer_request {operation : Operation} {object : ObjectId} {asked : Point.Operation}
    {point : Point} (requests : operation.request? = some (object, asked))
    (known : station.point? object = some point) :
    (perform operation station).answer = .ofPoint (point.perform asked).1 := by
  cases operation with
  | write _ priority value | relinquish _ priority =>
      cases requests
      rw [perform, Activity.run_map]
      exact answer_command known fun _ => rfl
  | setRelinquishDefault _ value =>
      cases requests
      have performs : ∀ ladder, PriorityLadder.perform ladder (.setRelinquishDefault value) =
          ladder.answerCommand (ladder.setRelinquishDefault value) := fun _ => rfl
      rw [← answer_command known performs]
      rw [perform, Activity.run_map, setRelinquishDefault, Activity.run_bind]
      dsimp only
      split <;> rfl
  | setOutOfService | setReliability =>
      cases requests
      simp [perform, setOutOfService, setReliability, known, answerOf, Answer.ofPoint,
        Point.perform, PriorityLadder.perform]
  | acknowledge request =>
      cases requests
      exact answer_acknowledge single known
  | setRecipients | tick | sweep | setClock => cases requests

end Answers

/-! ## Points -/

section Points

variable {station : Station} (single : station.IsSingle)
include single

/-- A request changes the point of its object, and no other. -/
theorem point?_request {operation : Operation} {target : ObjectId} {asked : Point.Operation}
    {point : Point} (requests : operation.request? = some (target, asked))
    (known : station.point? target = some point) (object : ObjectId) :
    (perform operation station).state.point? object =
      if target = object then some (point.perform asked).2 else station.point? object := by
  have stillSingle := isSingle_perform single operation
  have answers := answer_request single requests known
  have done := carried station operation
  generalize perform operation station = outcome at done answers stillSingle ⊢
  -- What is refused leaves the point as it was, and what is not has the point replaced by the one
  -- that was asked.
  have unchanged : (Answer.ofPoint (point.perform asked).1).isRefusal = true ->
      station.point? object =
        if target = object then some (point.perform asked).2 else station.point? object :=
    fun refuses => by
      rw [perform_of_isRefusal refuses]
      split
      · next here => rw [← here, known]
      · rfl
  have replaced : ∀ changed : Point, (station.setPoint target changed).point? object =
      if target = object then some changed else station.point? object := fun changed => by
    rw [point?_setPoint]
    split
    · next here => rw [← here, known, Option.map_some]
    · rfl
  cases done with
  | refused | notAcked =>
      refine unchanged ?_
      rw [← answers]
      rfl
  | commanded commands there accepted records =>
      obtain ⟨⟨output, settings, rfl⟩, -⟩ := records
      cases (Operation.request?_of_command? commands).symm.trans requests
      cases known.symm.trans there
      rw [Point.perform, accepted]
      exact replaced _
  | served there records =>
      obtain ⟨⟨output, settings, rfl⟩, -⟩ := records
      cases requests
      cases known.symm.trans there
      exact replaced _
  | trusted there =>
      cases requests
      cases known.symm.trans there
      exact replaced _
  | acknowledged found there granted =>
      cases requests
      rw [point?_eq single, found, Option.bind_some] at known
      cases known.symm.trans there
      rw [point?_acknowledged single found there rfl stillSingle, Point.perform, granted]
  | listed | swept | ticked | timed => cases requests

/-- A request for an object that does not exist is refused. -/
theorem isRefusal_of_unknown {operation : Operation} {target : ObjectId} {asked : Point.Operation}
    (requests : operation.request? = some (target, asked))
    (unknown : station.point? target = none) :
    (perform operation station).answer.isRefusal = true := by
  have done := carried station operation
  generalize perform operation station = outcome at done ⊢
  cases done with
  | refused | notAcked => rfl
  | commanded commands there =>
      cases (Operation.request?_of_command? commands).symm.trans requests
      rw [unknown] at there
      cases there
  | served there | trusted there =>
      cases requests
      rw [unknown] at there
      cases there
  | acknowledged found there =>
      cases requests
      rw [point?_eq single, found, Option.bind_some, there] at unknown
      cases unknown
  | listed | swept | ticked | timed => cases requests

omit single in
/-- An operation that names no object changes no point, unless it is a tick. -/
theorem point?_of_no_request {operation : Operation} (requests : operation.request? = none)
    (noTick : operation ≠ .tick) (object : ObjectId) :
    (perform operation station).state.point? object = station.point? object := by
  have done := carried station operation
  generalize perform operation station = outcome at done ⊢
  cases done with
  | refused | swept | timed => rfl
  | commanded commands =>
      rw [Operation.request?_of_command? commands] at requests
      cases requests
  | notAcked | served | trusted | acknowledged => cases requests
  | listed replaced records =>
      obtain ⟨⟨output, settings, rfl⟩, -⟩ := records
      rfl
  | ticked => exact absurd rfl noTick

end Points

end Annunciator.Station
