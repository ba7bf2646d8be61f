import Annunciator.Proofs.Ladder.Typing
import Annunciator.Proofs.Point.Acceptance
import Annunciator.Proofs.Point.Flags

/-!
# Alarm conditions never fail open

An alarm condition of one kind calls no value of the other kind off-normal. A point whose value
and condition were of different kinds would never raise an alarm, and nobody would be told. No
point is like that: everything in a new point is of the kind of its object type, and every
operation leaves it so. The signals of a tick always come out of a comparison of the value with
values of its kind.
-/

namespace Annunciator

/-! ## Kinds -/

/-- The kind of values that objects of a type have. -/
def ObjectType.valueKind (objectType : ObjectType) : ValueKind :=
  if objectType.isBinary then .binary else .multiState

/-- The binary types are those of binary values. -/
theorem ObjectType.valueKind_eq_binary_iff {objectType : ObjectType} :
    objectType.valueKind = .binary ↔ objectType.isBinary = true := by
  rw [valueKind]
  split <;> simp [*]

namespace AlarmCondition

/-- The values that a condition calls off-normal. -/
def offnormalValues : AlarmCondition -> List PointValue
  | binary alarmValue => [.binary alarmValue]
  | multiState alarmValues _ => alarmValues.map .multiState

/-- The signals of a tick, if the condition is about values of this kind. For any other value
there is no answer to fall back to. -/
def judge? : AlarmCondition -> PointValue -> Reliability -> Option Conditions
  | binary alarmValue, .binary value, reliability =>
      some ⟨value = alarmValue, reliability.isFault⟩
  | multiState alarmValues faultValues, .multiState state, reliability =>
      some ⟨alarmValues.contains state, faultValues.contains state || reliability.isFault⟩
  | binary _, .multiState _, _ | multiState .., .binary _, _ => none

variable {condition : AlarmCondition} {value : PointValue}

/-- A value is off-normal exactly if the condition lists it as such. -/
theorem isOffnormal_iff :
    condition.isOffnormal value = true ↔ value ∈ condition.offnormalValues := by
  cases condition <;> cases value <;> simp [isOffnormal, offnormalValues]

/-- A condition judges the values of its kind, and no others. -/
theorem judge?_eq_some_iff {reliability : Reliability} {conditions : Conditions} :
    condition.judge? value reliability = some conditions ↔
      condition.kind = value.kind ∧ condition.evaluate value reliability = conditions := by
  cases condition <;> cases value <;>
    simp [judge?, kind, PointValue.kind, evaluate, isOffnormal, isFaultValue]

end AlarmCondition

/-! ## Well-typed points -/

namespace Point

/-- What a point holds, and what it compares it with, is of the kind of its object type. -/
structure IsTyped (point : Point) : Prop where
  ladder : point.ladder.IsTyped point.id.objectType.valueKind
  alarm : point.alarm.kind = point.id.objectType.valueKind

/-- Only well-typed points can be set up. -/
theorem IsTyped.of_build {description : PointDescription} {point : Point}
    (built : description.build = .ok point) : point.IsTyped := by
  have sound : description.IsSound := PointDescription.flaws_eq_nil_iff.mp
    (PointDescription.build_names.exists_ok_iff.mp ⟨point, built⟩)
  obtain ⟨ladder, created, rfl⟩ := PointDescription.exists_ladder_of_build built
  constructor
  · have typed := PriorityLadder.IsTyped.create created
    rw [PointDescription.kind_defaultValue_iff.mpr sound.default] at typed
    exact typed
  · cases given : description.alarm with
    | none => exact (PointDescription.alarmCondition_of_none given).1
    | some condition =>
        rw [PointDescription.alarmCondition, given]
        exact (sound.alarm condition given).1

section Typed

variable {point : Point} (typed : point.IsTyped)
include typed

/-- Only operations of the ladder have a part in kinds, and none changes them. -/
theorem IsTyped.perform (operation : Operation) : (point.perform operation).2.IsTyped := by
  cases operation with
  | ladder operation => exact ⟨typed.ladder.perform operation, typed.alarm⟩
  | acknowledge request =>
      rw [state_perform_acknowledge]
      exact ⟨typed.ladder, typed.alarm⟩
  | setReliability | setNotificationClass | tick | setTimeDelay | setEventEnable
  | setNotifyType => exact ⟨typed.ladder, typed.alarm⟩

/-- The value of a well-typed point is of its kind, and one of its states if it has any. -/
theorem IsTyped.presentValue :
    point.presentValue.Fits point.id.objectType.valueKind point.ladder.numberOfStates :=
  typed.ladder.resolve

/-- The states of a point are counted unless its objects are binary. -/
theorem IsTyped.counted :
    point.ladder.numberOfStates = none ↔ point.id.objectType.isBinary = true :=
  typed.ladder.matched.trans ObjectType.valueKind_eq_binary_iff

/-- The condition of a point is about values of the kind that the point has. -/
theorem IsTyped.alarm_kind : point.alarm.kind = point.presentValue.kind :=
  typed.alarm.trans typed.presentValue.1.symm

end Typed

/-- Points stay well typed over every run. -/
theorem typed_stateAfter {description : PointDescription} {point : Point}
    (built : description.build = .ok point) (operations : List Operation) :
    (stateAfter perform point operations).IsTyped :=
  history_invariant (fun _ => IsTyped) (.of_build built)
    (fun _ _ operation typed => typed.perform operation) operations

/-! ## What a tick goes by -/

/-- A tick of a point goes by what its condition has to say about its value. -/
structure Judged (point : Point) (conditions : Conditions) : Prop where
  judged : point.alarm.judge? point.presentValue point.reliability = some conditions
  offnormal : conditions.offnormal = true ↔ point.presentValue ∈ point.alarm.offnormalValues
  passed : ∀ ackRequired now, (point.tick ackRequired now).2.monitor =
    (point.monitor.tick conditions ackRequired now).2

/-- The condition of a well-typed point has something to say about its value, and this is what a
tick goes by. -/
theorem Judged.of_typed {point : Point} (typed : point.IsTyped) : point.Judged point.signals where
  judged := AlarmCondition.judge?_eq_some_iff.mpr ⟨typed.alarm_kind, rfl⟩
  offnormal := AlarmCondition.isOffnormal_iff
  passed _ _ := rfl

/-- Whatever is asked of a point, accepted or refused, all that it holds stays of the kind of its
object type and within its states, and so do its value and its alarm condition. So every tick
judges the value by a condition of its kind, and signals that it is off-normal exactly if it is
one of the alarm values. -/
theorem typed_and_judged {description : PointDescription} {point : Point}
    (built : description.build = .ok point) (operations : List Operation) :
    (stateAfter perform point operations).IsTyped ∧
      (stateAfter perform point operations).presentValue.Fits
        (stateAfter perform point operations).id.objectType.valueKind
        (stateAfter perform point operations).ladder.numberOfStates ∧
      ((stateAfter perform point operations).ladder.numberOfStates = none ↔
        (stateAfter perform point operations).id.objectType.isBinary = true) ∧
      (stateAfter perform point operations).Judged
        (stateAfter perform point operations).signals := by
  have typed := typed_stateAfter built operations
  exact ⟨typed, typed.presentValue, typed.counted, .of_typed typed⟩

/-- The chiller is asked for a value of the other kind, for a state that it does not have and at
the reserved priority, all in vain, and then for the mode that is off-normal. -/
def misuse : List Operation :=
  [.ladder (.write 8 (.value (.binary .active))), .ladder (.write 8 (.value (.multiState 9))),
    .ladder (.setRelinquishDefault (.multiState 0)), .ladder (.write 6 (.value (.multiState 2))),
    .ladder (.write 10 (.value (.multiState 3)))]

/-- The chiller takes none but the last command, stays well typed, and is off-normal by it. -/
theorem misused_chiller_judged :
    ∃ point, chiller.build = .ok point ∧
      (stateAfter perform point misuse).presentValue = .multiState 3 ∧
      (stateAfter perform point misuse).ladder.numberOfStates = some 4 ∧
      (stateAfter perform point misuse).IsTyped ∧
      (stateAfter perform point misuse).signals.offnormal = true := by
  refine ⟨_, rfl, by decide, by decide, ?_⟩
  obtain ⟨typed, -, -, judged⟩ := @typed_and_judged chiller _ rfl misuse
  exact ⟨typed, judged.offnormal.mpr (by decide)⟩

end Point

end Annunciator
