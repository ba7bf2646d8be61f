import Annunciator.Proofs.Histories
import Annunciator.Proofs.Point.Parts

/-!
# What the flags of records tell

A fault can lie in the value of a point or in the input behind it, and a tick evaluates one signal
for both. The flags of its record are those of the point after it: the fault flag says how far the
input can be trusted, and nothing about the value. So it differs from the signal exactly when the
value is the only fault there is.
-/

namespace Annunciator.Point

/-! ## The signals of a tick -/

/-- The signals that a tick of a point evaluates. -/
def signals (point : Point) : Conditions :=
  point.alarm.evaluate point.presentValue point.reliability

/-- The value of a point is one of its fault values. -/
def HasFaultValue (point : Point) : Prop :=
  ∃ alarmValues faultValues state, point.alarm = .multiState alarmValues faultValues ∧
    point.presentValue = .multiState state ∧ state ∈ faultValues

/-- The value of a point is a fault, and the input behind it is none. -/
def FaultsByValue (point : Point) : Prop :=
  point.HasFaultValue ∧ point.reliability = .noFaultDetected

theorem isFault_iff {reliability : Reliability} :
    reliability.isFault = true ↔ reliability ≠ .noFaultDetected := by
  rw [Reliability.isFault, decide_eq_true_eq]

/-- A value is taken for a fault exactly if the condition lists it as one. -/
theorem isFaultValue_iff {point : Point} :
    point.alarm.isFaultValue point.presentValue = true ↔ point.HasFaultValue := by
  rw [HasFaultValue]
  cases point.alarm <;> cases point.presentValue <;> simp [AlarmCondition.isFaultValue]

/-- A fault is signalled for the value or for the input behind it. -/
theorem signals_fault_iff {point : Point} :
    point.signals.fault = true ↔ point.HasFaultValue ∨ point.reliability ≠ .noFaultDetected := by
  rw [← isFaultValue_iff, ← isFault_iff, ← Bool.or_eq_true]
  rfl

/-- A tick makes a transition into fault only if it is signalled. -/
theorem fault_of_target {point : Point} {ackRequired : TransitionSet} {now : Timestamp}
    {record : EventRecord} (returned : (point.tick ackRequired now).1 = some record)
    (idle : point.monitor.pendingAck = none) (failed : record.target = .fault) :
    point.signals.fault = true := by
  have done := point.monitor.ticked point.signals ackRequired now
  rw [tick, ← signals] at returned
  generalize point.monitor.tick point.signals ackRequired now = result at done returned
  cases done with
  | announced pending =>
      rw [idle] at pending
      cases pending
  | failed _ raised => exact raised.1
  | recovered =>
      cases returned
      cases failed
  | @elapsed _ _ kind exit =>
      cases returned
      have kindIs : kind = .toFault := Transition.target_injective failed
      cases kindIs
      cases here : point.monitor.state <;> rw [here] at exit <;> cases exit
  | counted | reloaded | rested => cases returned

/-! ## What was set last -/

/-- The reliability that an operation reports. -/
def Operation.reliability? : Operation -> Option Reliability
  | .setReliability reliability => some reliability
  | .ladder _ | .setNotificationClass _ | .tick .. | .acknowledge _ | .setTimeDelay _
  | .setEventEnable _ | .setNotifyType _ => none

/-- The value that an operation gives to the service flag. -/
def Operation.service? : Operation -> Option Bool
  | .ladder operation => operation.service?
  | .setReliability _ | .setNotificationClass _ | .tick .. | .acknowledge _ | .setTimeDelay _
  | .setEventEnable _ | .setNotifyType _ => none

/-- The reliability is what an operation reports, and else as it was. -/
theorem reliability_perform (point : Point) (operation : Operation) :
    (point.perform operation).2.reliability =
      operation.reliability?.getD point.reliability := by
  cases operation with
  | acknowledge request => rw [state_perform_acknowledge]; rfl
  | ladder | setReliability | setNotificationClass | tick | setTimeDelay | setEventEnable
  | setNotifyType => rfl

/-- The service flag is what an operation sets it to, and else as it was. -/
theorem outOfService_perform (point : Point) (operation : Operation) :
    (point.perform operation).2.ladder.outOfService =
      operation.service?.getD point.ladder.outOfService := by
  cases operation with
  | ladder operation => exact point.ladder.outOfService_perform operation
  | acknowledge request => rw [state_perform_acknowledge]; rfl
  | setReliability | setNotificationClass | tick | setTimeDelay | setEventEnable
  | setNotifyType => rfl

/-- The reliability that was reported last. A new point trusts its input. -/
def reportedReliability (operations : List Operation) : Reliability :=
  (operations.filterMap Operation.reliability?).getLast?.getD .noFaultDetected

/-- Whether a point was taken out of service last. A new point is in service. -/
def takenOut (operations : List Operation) : Bool :=
  (operations.filterMap Operation.service?).getLast?.getD false

section Built

variable {description : PointDescription} {point : Point} (built : description.build = .ok point)
include built

/-- A point has the reliability that was reported last. -/
theorem reliability_stateAfter (operations : List Operation) :
    (stateAfter perform point operations).reliability = reportedReliability operations := by
  have trusted : point.reliability = .noFaultDetected := by
    obtain ⟨ladder, -, rfl⟩ := PointDescription.exists_ladder_of_build built
    rfl
  rw [reportedReliability, ← trusted]
  exact read_stateAfter Point.reliability reliability_perform point operations

/-- A point is out of service if it was taken out last. -/
theorem outOfService_stateAfter (operations : List Operation) :
    (stateAfter perform point operations).ladder.outOfService = takenOut operations := by
  obtain ⟨-, -, inService⟩ := PointDescription.of_build built
  rw [takenOut, ← inService]
  exact read_stateAfter (·.ladder.outOfService) outOfService_perform point operations

end Built

/-! ## The flags of a record -/

/-- A record carries the flags of the point after its tick. -/
theorem statusFlags_tick {point : Point} {ackRequired : TransitionSet} {now : Timestamp}
    {record : EventRecord} (returned : (point.tick ackRequired now).1 = some record) :
    record.statusFlags = (point.tick ackRequired now).2.statusFlags := by
  have made := recorded returned
  generalize (point.tick ackRequired now).2 = after at made ⊢
  cases made <;> rfl

/-- What the flags of a record say about the points before and after its tick. -/
structure Flagged (before after : Point) (record : EventRecord) : Prop where
  inAlarm : record.statusFlags.inAlarm = true ↔ after.monitor.state ≠ .normal
  fault : record.statusFlags.fault = true ↔ before.reliability ≠ .noFaultDetected
  outOfService : record.statusFlags.outOfService = before.ladder.outOfService
  /-- The fault flag is the fault signal, but for a fault that lies in the value alone. -/
  agrees : (record.statusFlags.fault = true ↔ before.signals.fault = true) ↔
    ¬ before.FaultsByValue
  /-- So a transition into fault has the flag, but for the same exception. -/
  intoFault : before.monitor.pendingAck = none -> record.target = .fault ->
    (record.statusFlags.fault = true ↔ ¬ before.FaultsByValue)

/-- The fault flag of a record follows the input behind the point, and not its value. -/
theorem Flagged.tick {point : Point} {ackRequired : TransitionSet} {now : Timestamp}
    {record : EventRecord} (returned : (point.tick ackRequired now).1 = some record) :
    Flagged point (point.tick ackRequired now).2 record := by
  have flags := statusFlags_tick returned
  have fault : record.statusFlags.fault = true ↔ point.reliability ≠ .noFaultDetected := by
    rw [flags]
    exact isFault_iff
  have agrees : (record.statusFlags.fault = true ↔ point.signals.fault = true) ↔
      ¬ point.FaultsByValue := by
    rw [fault, signals_fault_iff, FaultsByValue]
    tauto
  refine ⟨?_, fault, ?_, agrees, fun idle failed => ?_⟩
  · rw [flags]
    exact decide_eq_true_iff
  · rw [flags]
    rfl
  · have signalled := fault_of_target returned idle failed
    rw [← agrees, signalled]
    simp

/-- Whatever happened to a point, the flags of its next record say whether it is out of normal
after the tick, whether the reliability reported last is a fault, and whether it was taken out
of service last. The fault flag is the fault signal of the tick, which the value can raise as
well, unless the value alone raises it. -/
theorem flags_of_run {description : PointDescription} {point : Point}
    (built : description.build = .ok point) (operations : List Operation)
    {ackRequired : TransitionSet} {now : Timestamp} {record : EventRecord}
    (returned : ((stateAfter perform point operations).tick ackRequired now).1 = some record) :
    Flagged (stateAfter perform point operations)
        ((stateAfter perform point operations).tick ackRequired now).2 record ∧
      ((stateAfter perform point operations).signals.fault = true ↔
        (stateAfter perform point operations).HasFaultValue ∨
          reportedReliability operations ≠ .noFaultDetected) ∧
      (record.statusFlags.fault = true ↔ reportedReliability operations ≠ .noFaultDetected) ∧
      record.statusFlags.outOfService = takenOut operations := by
  have flagged := Flagged.tick returned
  rw [← reliability_stateAfter built operations, ← outOfService_stateAfter built operations]
  exact ⟨flagged, signals_fault_iff, flagged.fault, flagged.outOfService⟩

/-- A chiller with four modes, the last of which is a fault. -/
def chiller : PointDescription :=
  { PointDescription.of ⟨.multiStateValue, 2⟩ with
    name := some "chiller"
    numberOfStates := some 4
    alarm := some (.multiState [3] [4]) }

/-- The chiller is put into the mode that is a fault. -/
def breakDown : List Operation := [.ladder (.write 10 (.value (.multiState 4)))]

/-- The chiller makes a transition into fault. It is out of normal, and the record does not have
the fault flag. -/
theorem chiller_flags :
    ∃ point record, chiller.build = .ok point ∧
      ((stateAfter perform point breakDown).tick .all Timestamp.noon).1 = some record ∧
      record.target = .fault ∧ (stateAfter perform point breakDown).signals.fault = true ∧
      record.statusFlags.inAlarm = true ∧ record.statusFlags.fault ≠ true ∧
      record.statusFlags.outOfService = false := by
  refine ⟨_, _, rfl, rfl, rfl, rfl, ?_⟩
  obtain ⟨flagged, -, fault, outOfService⟩ :=
    @flags_of_run chiller _ rfl breakDown .all Timestamp.noon _ rfl
  exact ⟨flagged.inAlarm.mpr (by decide), fault.not.mpr (by decide), outOfService⟩

/-- The fault flag is not always the fault signal of the tick. -/
theorem not_fault_flag_of_signal :
    ¬ ∀ (description : PointDescription) (point : Point), description.build = .ok point ->
      ∀ (operations : List Operation) (ackRequired : TransitionSet) (now : Timestamp)
        (record : EventRecord),
        ((stateAfter perform point operations).tick ackRequired now).1 = some record ->
        (record.statusFlags.fault = true ↔
          (stateAfter perform point operations).signals.fault = true) := by
  intro faithful
  have flagged := faithful chiller _ rfl breakDown .all Timestamp.noon _ rfl
  revert flagged
  decide

end Annunciator.Point
