import Annunciator.Proofs.Histories
import Annunciator.Proofs.Network
import Annunciator.Proofs.Point.Parts

/-!
# What records tell

The monitor of a point knows whether a tick makes a transition happen or announces an
acknowledgment. All that is told about it later is read off the record: its type says which of
the two it was. But the type of a transition is a setting, and the type of announcements can
be set, too. Then transitions are told as if they were announcements.
-/

namespace Annunciator.Point

/-! ## The type of a record -/

/-- The record of a tick has the type of announcements if an acknowledgment was left to
announce, and the type that is set for transitions otherwise. -/
theorem notifyType_tick {point : Point} {ackRequired : TransitionSet} {now : Timestamp}
    {record : EventRecord} (returned : (point.tick ackRequired now).1 = some record) :
    record.notifyType =
      if point.monitor.pendingAck.isSome then .ackNotification
      else point.monitor.reporting.notifyType := by
  have made := recorded returned
  generalize (point.tick ackRequired now).2 = after at made
  cases made with
  | announced pending =>
      rw [pending]
      rfl
  | made idle =>
      rw [idle]
      rfl

/-- A record looks like an announcement if something was left to announce, or if the point gives
this type to all of its records. -/
theorem isAckNotification_tick {point : Point} {ackRequired : TransitionSet} {now : Timestamp}
    {record : EventRecord} (returned : (point.tick ackRequired now).1 = some record) :
    record.isAckNotification = true ↔ point.monitor.pendingAck.isSome = true ∨
      point.monitor.reporting.notifyType = .ackNotification := by
  rw [EventRecord.isAckNotification, decide_eq_true_eq, notifyType_tick returned]
  split <;> simp_all

/-! ## The type that is set -/

/-- The type that an operation sets for transitions. -/
def Operation.notifyType? : Operation -> Option NotifyType
  | .setNotifyType type => some type
  | .ladder _ | .setReliability _ | .setNotificationClass _ | .tick .. | .acknowledge _
  | .setTimeDelay _ | .setEventEnable _ => none

/-- The type that was set last, or else the one of the description. -/
def chosenType (description : PointDescription) (operations : List Operation) : NotifyType :=
  (operations.filterMap Operation.notifyType?).getLast?.getD description.reporting.notifyType

/-- Only an operation that sets the type changes it. -/
theorem notifyType_perform (point : Point) (operation : Operation) :
    (point.perform operation).2.monitor.reporting.notifyType =
      operation.notifyType?.getD point.monitor.reporting.notifyType := by
  cases operation with
  | tick ackRequired now =>
      exact congrArg Reporting.notifyType (point.monitor.reporting_tick _ ackRequired now)
  | acknowledge request =>
      rw [state_perform_acknowledge]
      rcases point.monitor.perform_acknowledge_cases request.state request.timestamp with
        ⟨acks, accepted⟩ | ⟨answer, -, kept⟩
      · rw [accepted]
        rfl
      · rw [kept]
        rfl
  | ladder | setReliability | setNotificationClass | setTimeDelay | setEventEnable
  | setNotifyType => rfl

/-- A new point gives its records the type that its description asks for. -/
theorem notifyType_of_build {description : PointDescription} {point : Point}
    (built : description.build = .ok point) :
    point.monitor.reporting.notifyType = description.reporting.notifyType := by
  obtain ⟨ladder, -, rfl⟩ := PointDescription.exists_ladder_of_build built
  rfl

/-- After any run a monitor has the type that was chosen last. -/
theorem notifyType_stateAfter {description : PointDescription} {point : Point}
    (built : description.build = .ok point) (operations : List Operation) :
    (stateAfter perform point operations).monitor.reporting.notifyType =
      chosenType description operations := by
  rw [chosenType, ← notifyType_of_build built]
  exact read_stateAfter (·.monitor.reporting.notifyType) notifyType_perform point operations

/-! ## What is told -/

/-- What is told about a record to the bus: a transition if it does not look like an
announcement. -/
theorem occurrence_ofRecord_iff (record : EventRecord) :
    (BusEvent.ofRecord record).occurrence =
        .stateTransition record.origin record.target record.notifyType record.message ↔
      record.isAckNotification = false := by
  cases acks : record.isAckNotification <;> simp [BusEvent.ofRecord, acks]

/-- What is told about a record to recipients carries the value if the record does not look
like an announcement. -/
theorem carries_iff {device : DeviceInstance} {record : EventRecord} {group : NotificationClass}
    {network : Network} {transmission : Transmission} {failure : Option TransportError}
    (sent : .send transmission failure ∈ (Dispatch.report device record group network).effects) :
    (transmission.notification.newValue = some record.value ∧
        transmission.notification.statusFlags = some record.statusFlags) ↔
      record.isAckNotification = false := by
  obtain ⟨kind, destination, address, -, rfl⟩ := Network.sent_report sent
  cases acks : record.isAckNotification <;>
    simp [Dispatch.transmissionTo, EventRecord.notification, acks]

/-- Whether a record looks like the announcement of an acknowledgment exactly if it is one
depends on the type that was chosen for transitions. If that is the type of announcements,
then every transition looks like one: it is not published as a transition, and no notification
of it carries its value and flags. With every other type it is, and all of them do. -/
theorem told_as_it_is_iff {description : PointDescription} {point : Point}
    (built : description.build = .ok point) (operations : List Operation)
    {ackRequired : TransitionSet} {now : Timestamp} {record : EventRecord}
    (returned : ((stateAfter perform point operations).tick ackRequired now).1 = some record) :
    ((record.isAckNotification = true ↔
        (stateAfter perform point operations).monitor.pendingAck.isSome = true) ↔
      (stateAfter perform point operations).monitor.pendingAck.isSome = true ∨
        chosenType description operations ≠ .ackNotification) ∧
    ((stateAfter perform point operations).monitor.pendingAck = none ->
      ((BusEvent.ofRecord record).occurrence =
          .stateTransition record.origin record.target record.notifyType record.message ↔
        chosenType description operations ≠ .ackNotification) ∧
      ∀ device group network transmission failure,
        .send transmission failure ∈ (Dispatch.report device record group network).effects ->
          (transmission.notification.newValue = some record.value ∧
              transmission.notification.statusFlags = some record.statusFlags ↔
            chosenType description operations ≠ .ackNotification)) := by
  have looks := isAckNotification_tick returned
  rw [notifyType_stateAfter built] at looks
  generalize stateAfter perform point operations = state at looks returned ⊢
  refine ⟨by rw [looks]; tauto, fun idle => ?_⟩
  have differs : record.isAckNotification = false ↔
      chosenType description operations ≠ .ackNotification := by
    rw [← Bool.not_eq_true, looks, idle]
    simp
  refine ⟨(occurrence_ofRecord_iff record).trans differs, ?_⟩
  intro device group network transmission failure sent
  exact (carries_iff sent).trans differs

/-- A fan whose transitions are to be reported with the type of announcements. -/
def mislabelled : PointDescription :=
  { PointDescription.of ⟨.binaryOutput, 1⟩ with
    name := some "fan"
    reporting := { Reporting.standard with notifyType := .ackNotification } }

/-- The fan is switched on, which is its alarm value. -/
def switchOn : List Operation := [.ladder (.write 8 (.value (.binary .active)))]

/-- The fan goes off-normal. Nobody ever acknowledged anything, but its record looks like the
announcement of an acknowledgment, and is published as one. -/
theorem mislabelled_told_as_announcement :
    ∃ point record, mislabelled.build = .ok point ∧
      ((stateAfter perform point switchOn).tick .none Timestamp.noon).1 = some record ∧
      ¬ (record.isAckNotification = true ↔
        (stateAfter perform point switchOn).monitor.pendingAck.isSome = true) ∧
      (BusEvent.ofRecord record).occurrence ≠
        .stateTransition record.origin record.target record.notifyType record.message := by
  refine ⟨_, _, rfl, rfl, ?_⟩
  obtain ⟨looks, told⟩ :=
    @told_as_it_is_iff mislabelled _ rfl switchOn .none Timestamp.noon _ rfl
  exact ⟨looks.not.mpr (by decide), (told rfl).1.not.mpr (by decide)⟩

/-- Not every record looks like an announcement exactly if it is one. -/
theorem not_told_as_it_is :
    ¬ ∀ (description : PointDescription) (point : Point), description.build = .ok point ->
      ∀ (operations : List Operation) (ackRequired : TransitionSet) (now : Timestamp)
        (record : EventRecord),
        ((stateAfter perform point operations).tick ackRequired now).1 = some record ->
        (record.isAckNotification = true ↔
          (stateAfter perform point operations).monitor.pendingAck.isSome = true) := by
  intro faithful
  have looks := faithful mislabelled _ rfl switchOn .none Timestamp.noon _ rfl
  revert looks
  decide

end Annunciator.Point
