import Annunciator.Proofs.Histories
import Annunciator.Proofs.Network
import Annunciator.Proofs.RecipientLists
import Annunciator.Proofs.ReportingTables
import Annunciator.Station.Operation

/-!
# The steps of a station

Everything that an operation can do to a station and to the world around it, in one list:
`Carried` names what has to be the case for it, which parts of the station it changes, and
which effects it has. What is kept by every operation is shown case by case along it, and
no proof after it opens an operation again.
-/

namespace Annunciator

open Activity (Law Obeys)

/-- An effect that only drives the output or saves a setting. -/
def Effect.IsLocal : Effect -> Prop
  | .apply .. | .save .. => True
  | .bind .. | .discover .. | .discoverAt .. | .release .. | .send .. | .publish .. => False

/-- A table grants what the point that is asked for grants. -/
theorem PointTable.of_acknowledge {table after : PointTable} {number : UInt32}
    {request : AckRequest} {outcome : AckOutcome}
    (accepted : table.acknowledge number request = .ok (outcome, after)) :
    ∃ point acked, table.get? number = some point ∧
      point.acknowledge request = .ok (outcome, acked) ∧ after = table.set number acked := by
  rw [PointTable.acknowledge] at accepted
  cases known : table.get? number with
  | none =>
      rw [known] at accepted
      cases accepted
  | some point =>
      rw [known] at accepted
      obtain ⟨⟨_, acked⟩, granted, same⟩ := bind_eq_ok_iff.mp accepted
      cases same
      exact ⟨point, acked, rfl, granted, rfl⟩

namespace Station

/-! ## Parts of an operation -/

/-- A station that drives its output and saves settings does nothing else. -/
def recording : Law Station where
  holds station effects after :=
    (∃ output settings, after = { station with output, settings }) ∧
      ∀ effect ∈ effects, effect.IsLocal
  idle station := ⟨⟨station.output, station.settings, rfl⟩, fun _ member => nomatch member⟩
  chain := by
    rintro first _ _ earlier later ⟨⟨_, _, rfl⟩, before⟩ ⟨⟨output, settings, rfl⟩, after⟩
    refine ⟨⟨output, settings, rfl⟩, fun effect member => ?_⟩
    exact (List.mem_append.mp member).elim (before effect) (after effect)

/-- To drive the output is part of recording. -/
theorem recording_apply (object : ObjectId) (old new : PointValue) :
    Obeys recording (onOutput (OutputLog.apply object old new)) := by
  intro station
  refine ⟨⟨_, station.settings, rfl⟩, fun effect member => ?_⟩
  cases List.mem_singleton.mp member
  trivial

/-- To save a setting is part of recording, also when the store fails. -/
theorem recording_persist {Saved : Type} [JsonForm Saved] (key : String) (value : Saved) :
    Obeys recording (onSettings (SettingsStore.persist key value)) := by
  intro station
  refine ⟨⟨station.output, _, rfl⟩, fun effect member => ?_⟩
  have saves : (onSettings (SettingsStore.persist key value) station).effects =
      [.save key (toJson value) station.settings.fault] := by
    cases fault : station.settings.fault <;>
      simp [onSettings, SettingsStore.persist, SettingsStore.save, fault]
  rw [saves] at member
  cases List.mem_singleton.mp member
  trivial

/-- Events are published one after the other. -/
theorem run_publishAll (events : List BusEvent) (station : Station) :
    ∃ bus, events.forM publish station =
      ⟨(), { station with bus }, events.map .publish⟩ := by
  induction events generalizing station with
  | nil => exact ⟨station.bus, rfl⟩
  | cons event rest inductionHypothesis =>
      have first : publish event station =
          ⟨(), { station with bus := station.bus.deliver event }, [.publish event]⟩ := rfl
      obtain ⟨bus, later⟩ :=
        inductionHypothesis { station with bus := station.bus.deliver event }
      exact ⟨bus, by simp [first, later]⟩

/-- What is done to spread records: they are published, and the recipients of their
classes are told. -/
inductive Notice (station : Station) : Effect -> Prop where
  | published (record : EventRecord) : Notice station (.publish (.ofRecord record))
  | told {number : UInt32} {group : NotificationClass} {effect : Effect}
      (known : station.registry.lookup? number = some group)
      (notice : station.network.Notice group effect) : Notice station effect

/-- A station that spreads records adds to what was sent and published. -/
def spreading : Law Station where
  holds station effects after :=
    (∃ sent bus, after = { station with network := { station.network with sent }, bus }) ∧
      ∀ effect ∈ effects, station.Notice effect
  idle station := ⟨⟨station.network.sent, station.bus, rfl⟩, fun _ member => nomatch member⟩
  chain := by
    rintro first _ _ earlier later ⟨⟨sent, _, rfl⟩, before⟩ ⟨⟨final, bus, rfl⟩, after⟩
    refine ⟨⟨final, bus, rfl⟩, fun effect member => ?_⟩
    rcases List.mem_append.mp member with here | there
    · exact before effect here
    · cases after effect there with
      | published record => exact .published record
      | told known notice =>
          cases notice with
          | lookedUp references => exact .told known (.lookedUp references)
          | sent transmission failure => exact .told known (.sent transmission failure)

/-- To publish a record is part of spreading it. -/
theorem spreading_publish (record : EventRecord) :
    Obeys spreading (publish (.ofRecord record)) := by
  intro station
  refine ⟨⟨station.network.sent, station.bus.deliver (.ofRecord record), rfl⟩, ?_⟩
  intro effect member
  cases List.mem_singleton.mp member
  exact .published record

/-- To announce a record is to publish it, and to tell the recipients of its class if there is
one. -/
theorem spreading_announce (record : EventRecord) : Obeys spreading (announce record) := by
  refine (spreading_publish record).bind fun _ station => ?_
  rw [Activity.run_bind, Activity.run_get]
  cases known : station.registry.lookup? record.notificationClass with
  | none => exact spreading.idle station
  | some group =>
      have tells : Obeys (Network.telling group) (do
          let _ <- Dispatch.report station.device record group) :=
        (Network.telling_report station.device record).bind fun _ => .pure _
      obtain ⟨⟨sent, same⟩, notices⟩ := tells station.network
      refine ⟨⟨sent, station.bus, ?_⟩, fun effect member => .told known (notices effect member)⟩
      rw [← same]
      rfl

/-! ## Whole operations -/

/-- The object that an operation commands, and what its ladder is asked to do. -/
def Operation.command? : Operation -> Option (ObjectId × PriorityLadder.Operation)
  | .write object priority value => some (object, .write priority value)
  | .relinquish object priority => some (object, .relinquish priority)
  | .setRelinquishDefault object value => some (object, .setRelinquishDefault value)
  | _ => none

/-- Everything that an operation can lead to. -/
inductive Carried (station : Station) : Operation -> Outcome Station Answer -> Prop where
  /-- What is refused has no effect at all. -/
  | refused {operation : Operation} (error : ProtocolError) :
      Carried station operation ⟨.refused error, station, []⟩
  | notAcked {request : AckRequest} (error : AckError) :
      Carried station (.acknowledge request) ⟨.notAcked error, station, []⟩
  | commanded {operation : Operation} {object : ObjectId} {asked : PriorityLadder.Operation}
      {point : Point} {command : Command} {ladder : PriorityLadder} {after : Station}
      {effects : List Effect} (commands : operation.command? = some (object, asked))
      (known : station.point? object = some point)
      (accepted : point.ladder.perform asked = (.command command, ladder))
      (records : recording.holds (station.setPoint object { point with ladder }) effects after) :
      Carried station operation ⟨.value command.new, after, effects⟩
  | served {object : ObjectId} {value : Bool} {point : Point} {after : Station}
      {effects : List Effect} (known : station.point? object = some point)
      (records : recording.holds (station.setPoint object (point.setOutOfService value)) effects
        after) :
      Carried station (.setOutOfService object value) ⟨.done, after, effects⟩
  | trusted {object : ObjectId} {reliability : Reliability} {point : Point}
      (known : station.point? object = some point) :
      Carried station (.setReliability object reliability)
        ⟨.done, station.setPoint object (point.setReliability reliability), []⟩
  /-- An acknowledgment goes to the first table of its type. -/
  | acknowledged {request : AckRequest} {table : PointTable} {point after : Point}
      {outcome : AckOutcome}
      (found : station.tables.find? (·.objectType = request.object.objectType) = some table)
      (known : table.get? request.object.number = some point)
      (granted : point.acknowledge request = .ok (outcome, after)) :
      Carried station (.acknowledge request)
        ⟨.acked outcome,
          { station with
            tables := modifyFirst (·.objectType = request.object.objectType)
              (fun _ => table.set request.object.number after) station.tables }, []⟩
  | listed {number : UInt32} {entries : List Destination} {update : RecipientUpdate}
      {registry : ClassRegistry} {after : Station} {effects : List Effect}
      (replaced : station.registry.replaceRecipients number entries = .ok (update, registry))
      (records : recording.holds { station with
        registry, network := (Network.settle update station.network).state } effects after) :
      Carried station (.setRecipients number entries)
        ⟨.recipients update, after, (Network.settle update station.network).effects ++ effects⟩
  | swept :
      Carried station .sweep
        ⟨.missing (Network.sweep station.registry.deviceRecipients station.network).answer,
          { station with
            network := (Network.sweep station.registry.deviceRecipients station.network).state },
          (Network.sweep station.registry.deviceRecipients station.network).effects⟩
  | ticked {bus : EventBus} {after : Station} {effects : List Effect}
      (spreads : spreading.holds { station.evaluate with bus } effects after) :
      Carried station .tick
        ⟨.records station.tickReport.records, after,
          station.tickReport.changes.map .publish ++ effects⟩
  | timed {now : Timestamp} :
      Carried station (.setClock now) ⟨.done, { station with clock := now }, []⟩

section Carried

variable {station : Station}

/-- What is recorded of an accepted command: the output follows if it is to, and the commanded
values are saved. -/
def recordCommand (object : ObjectId) (result : Command) (ladder : PriorityLadder) :
    Activity Station Unit := do
  if result.actuate then
    onOutput (OutputLog.apply object result.old result.new)
  onSettings (SettingsStore.persist (priorityArrayKey object) ladder.slots)

/-- What is recorded of a command concerns the output and the settings only. -/
theorem recording_recordCommand (object : ObjectId) (result : Command) (ladder : PriorityLadder) :
    Obeys recording (recordCommand object result ladder) := by
  rw [recordCommand]
  dsimp only
  split
  · exact (recording_apply _ _ _).bind fun _ => recording_persist _ _
  · exact recording_persist _ _

/-- A command is given to the ladder of its object, and recorded if it is accepted. -/
theorem run_command {object : ObjectId} {point : Point}
    (known : station.point? object = some point)
    (change : PriorityLadder -> Except ProtocolError (Command × PriorityLadder)) :
    command object change station =
      match change point.ladder with
      | .error error => ⟨.error error, station, []⟩
      | .ok (result, ladder) =>
          let recorded :=
            recordCommand object result ladder (station.setPoint object { point with ladder })
          ⟨.ok result.new, recorded.state, recorded.effects⟩ := by
  cases granted : change point.ladder with
  | error error =>
      have refuses : point.command change = .error error := by
        rw [Point.command, granted]
        rfl
      simp [command, known, refuses]
  | ok accepted =>
      obtain ⟨result, ladder⟩ := accepted
      have accepts : point.command change = .ok (result, { point with ladder }) := by
        rw [Point.command, granted]
        rfl
      cases drives : result.actuate <;> simp [command, recordCommand, known, accepts, drives]

/-- A command is refused, or given to the ladder of its object. -/
theorem command_cases (object : ObjectId) {asked : PriorityLadder.Operation}
    {change : PriorityLadder -> Except ProtocolError (Command × PriorityLadder)}
    (performs : ∀ ladder, PriorityLadder.perform ladder asked = ladder.answerCommand (change ladder)) :
    (∃ error, command object change station = ⟨.error error, station, []⟩) ∨
    ∃ point result ladder after effects,
      station.point? object = some point ∧
      point.ladder.perform asked = (.command result, ladder) ∧
      recording.holds (station.setPoint object { point with ladder }) effects after ∧
      command object change station = ⟨.ok result.new, after, effects⟩ := by
  cases known : station.point? object with
  | none => exact .inl ⟨.unknownObject, by simp [command, known]⟩
  | some point =>
      rw [run_command known]
      cases granted : change point.ladder with
      | error error => exact .inl ⟨error, rfl⟩
      | ok accepted =>
          obtain ⟨result, ladder⟩ := accepted
          have performed : point.ladder.perform asked = (.command result, ladder) := by
            rw [performs, granted]
            rfl
          exact .inr ⟨point, result, ladder, _, _, rfl, performed,
            recording_recordCommand object result ladder _, rfl⟩

/-- A command by itself, for the operations that are no more than that. -/
theorem carried_command {operation : Operation} {object : ObjectId}
    {asked : PriorityLadder.Operation}
    {change : PriorityLadder -> Except ProtocolError (Command × PriorityLadder)}
    (commands : operation.command? = some (object, asked))
    (performs : ∀ ladder, PriorityLadder.perform ladder asked = ladder.answerCommand (change ladder)) :
    Carried station operation ((answerOf .value <$> command object change) station) := by
  rw [Activity.run_map]
  rcases command_cases object performs with
    ⟨error, refuses⟩ | ⟨point, result, ladder, after, effects, known, accepted, records, accepts⟩
  · rw [refuses]
    exact .refused _
  · rw [accepts]
    exact .commanded commands known accepted records

/-- A new default is a command that is saved if it was accepted. -/
theorem carried_setRelinquishDefault (object : ObjectId) (value : PointValue) :
    Carried station (.setRelinquishDefault object value)
      (perform (.setRelinquishDefault object value) station) := by
  have performs : ∀ ladder, PriorityLadder.perform ladder (.setRelinquishDefault value) =
      ladder.answerCommand (ladder.setRelinquishDefault value) := fun _ => rfl
  rw [perform, Activity.run_map, setRelinquishDefault, Activity.run_bind]
  rcases command_cases object performs with
    ⟨error, refuses⟩ | ⟨point, result, ladder, after, effects, known, accepted, records, accepts⟩
  · rw [refuses]
    exact .refused _
  · have saves : Obeys recording (do
        onSettings (SettingsStore.persist (relinquishDefaultKey object) value)
        pure (Except.ok (ε := ProtocolError) result.new)) :=
      (recording_persist _ _).bind fun _ => .pure _
    rw [accepts]
    exact .commanded rfl known accepted (recording.chain records (saves after))

/-- The service flag of a point that exists is set and saved. -/
theorem carried_setOutOfService (object : ObjectId) (value : Bool) :
    Carried station (.setOutOfService object value)
      (perform (.setOutOfService object value) station) := by
  rw [perform, Activity.run_map, setOutOfService, Activity.run_bind, Activity.run_get]
  cases known : station.point? object with
  | none => exact .refused _
  | some point =>
      have saves : Obeys recording (do
          onSettings (SettingsStore.persist (outOfServiceKey object) value)
          pure (Except.ok (ε := ProtocolError) ())) :=
        (recording_persist _ _).bind fun _ => .pure _
      exact .served known (saves (station.setPoint object (point.setOutOfService value)))

/-- A list that its class or the registry refuses leaves everything as it is. -/
theorem run_setRecipients_of_refused {number : UInt32} {entries : List Destination}
    {error : ProtocolError}
    (refused : station.registry.replaceRecipients number entries = .error error) :
    setRecipients number entries station = ⟨.error error, station, []⟩ := by
  rw [setRecipients, Activity.run_bind, Activity.run_get]
  simp only [refused, Activity.run_pure, List.append_nil]

/-- An accepted list is entered, followed on the network, and saved as the slots of its class. -/
theorem run_setRecipients {number : UInt32} {entries : List Destination}
    {update : RecipientUpdate} {registry : ClassRegistry}
    (replaced : station.registry.replaceRecipients number entries = .ok (update, registry)) :
    setRecipients number entries station =
      let settled := Network.settle update station.network
      let saved := SettingsStore.persist (recipientListKey number) (entries.map slotFor)
        station.settings
      ⟨.ok update, { station with registry, network := settled.state, settings := saved.state },
        settled.effects ++ saved.effects⟩ := by
  obtain ⟨group, known, -, listed, -⟩ := ClassRegistry.replaceRecipients_eq_ok_iff.mp replaced
  have here : registry.lookup? number = some { group with slots := entries.map slotFor } := by
    rw [listed, ClassRegistry.lookup?_relisted known, if_pos rfl]
  rw [setRecipients, Activity.run_bind, Activity.run_get]
  simp only [replaced, here, Activity.run_bind, Activity.run_modify, Activity.run_pure,
    List.append_nil, List.nil_append]
  rfl

/-- A list that the registry accepts is entered, followed and saved; any other one is
refused. -/
theorem carried_setRecipients (number : UInt32) (entries : List Destination) :
    Carried station (.setRecipients number entries)
      (perform (.setRecipients number entries) station) := by
  rw [perform, Activity.run_map]
  cases replaced : station.registry.replaceRecipients number entries with
  | error error =>
      rw [run_setRecipients_of_refused replaced]
      exact .refused _
  | ok replacement =>
      obtain ⟨update, registry⟩ := replacement
      rw [run_setRecipients replaced]
      exact .listed replaced (recording_persist _ _ { station with
        registry, network := (Network.settle update station.network).state })

/-- An acknowledgment goes to the point that reports for its object, which grants or refuses
it. -/
theorem carried_acknowledge (request : AckRequest) :
    Carried station (.acknowledge request) (perform (.acknowledge request) station) := by
  rw [perform, Activity.run_map, acknowledge, Activity.run_bind, Activity.run_get]
  cases found : station.objectTable.find? request.object.objectType with
  | none => exact .notAcked _
  | some table =>
      cases answered : table.acknowledge request.object.number request with
      | error error =>
          simp only [answered]
          exact .notAcked _
      | ok accepted =>
          obtain ⟨outcome, after⟩ := accepted
          obtain ⟨point, acked, known, granted, rfl⟩ := PointTable.of_acknowledge answered
          rw [objectTable, ObjectTable.find?_ofTables] at found
          simp only [answered]
          exact .acknowledged found known granted

/-- A tick evaluates the points, publishes the changes of value, and announces the records. -/
theorem run_tick (station : Station) :
    ∃ bus, perform .tick station =
      ⟨.records station.tickReport.records,
        (station.tickReport.records.forM announce { station.evaluate with bus }).state,
        station.tickReport.changes.map .publish ++
          (station.tickReport.records.forM announce { station.evaluate with bus }).effects⟩ := by
  obtain ⟨bus, publishes⟩ := run_publishAll station.tickReport.changes station.evaluate
  refine ⟨bus, ?_⟩
  rw [perform, Activity.run_map, tick]
  simp only [Activity.run_bind, Activity.run_get, Activity.run_modify, Activity.run_pure,
    List.nil_append, List.append_nil, publishes]

/-- The records of a tick are spread after the changes of value. -/
theorem perform_tick (station : Station) :
    ∃ bus after effects, spreading.holds { station.evaluate with bus } effects after ∧
      perform .tick station =
        ⟨.records station.tickReport.records, after,
          station.tickReport.changes.map .publish ++ effects⟩ := by
  obtain ⟨bus, ticks⟩ := station.run_tick
  have spreads : Obeys spreading (station.tickReport.records.forM announce) :=
    .forM fun record _ => spreading_announce record
  exact ⟨bus, _, _, spreads _, ticks⟩

/-- An operation does nothing beyond what `Carried` lists. -/
theorem carried (station : Station) (operation : Operation) :
    Carried station operation (perform operation station) := by
  cases operation with
  | write object priority value => exact carried_command rfl fun _ => rfl
  | relinquish object priority => exact carried_command rfl fun _ => rfl
  | setRelinquishDefault object value => exact carried_setRelinquishDefault object value
  | setOutOfService object value => exact carried_setOutOfService object value
  | setReliability object reliability =>
      rw [perform, Activity.run_map, setReliability, Activity.run_bind, Activity.run_get]
      cases known : station.point? object with
      | none => exact .refused _
      | some point => exact .trusted known
  | setRecipients number entries => exact carried_setRecipients number entries
  | acknowledge request => exact carried_acknowledge request
  | tick =>
      obtain ⟨bus, after, effects, spreads, ticks⟩ := perform_tick station
      rw [ticks]
      exact .ticked spreads
  | sweep =>
      rw [perform, Activity.run_map, sweep, Activity.run_bind]
      exact .swept
  | setClock now => exact .timed

end Carried

/-! ## Histories -/

/-- A step of a station, with what it answered and which effects it had. -/
abbrev StationStep := Step Station Operation (Answer × List Effect)

/-- Carry out one operation: what comes of it, and the station after it. -/
def carryOut (station : Station) (operation : Operation) : (Answer × List Effect) × Station :=
  (((perform operation station).answer, (perform operation station).effects),
    (perform operation station).state)

/-- The steps that operations make, oldest first. -/
def history (station : Station) (operations : List Operation) : List StationStep :=
  historyOf carryOut station operations

/-- The station that operations lead to. -/
def after (station : Station) (operations : List Operation) : Station :=
  stateAfter carryOut station operations

theorem history_concat (station : Station) (operations : List Operation) (operation : Operation) :
    station.history (operations ++ [operation]) =
      station.history operations ++ [stepOf carryOut (station.after operations) operation] :=
  historyOf_concat carryOut station operations operation

theorem after_concat (station : Station) (operations : List Operation) (operation : Operation) :
    station.after (operations ++ [operation]) =
      (perform operation (station.after operations)).state :=
  stateAfter_concat carryOut station operations operation

/-- A run answers what its steps answer, and has their effects. -/
theorem run_eq (operations : List Operation) (station : Station) :
    run operations station =
      ⟨(station.history operations).map (·.answer.1), station.after operations,
        (station.history operations).flatMap (·.answer.2)⟩ := by
  induction operations generalizing station with
  | nil => rfl
  | cons operation rest inductionHypothesis =>
      have later := inductionHypothesis (perform operation station).state
      rw [run] at later ⊢
      rw [List.mapM_cons, Activity.run_bind, Activity.run_bind, later]
      simp only [Activity.run_pure, List.append_nil]
      rfl

end Station

end Annunciator
