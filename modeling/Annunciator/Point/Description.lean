import Annunciator.Point.Basic

/-!
# Descriptions of points

A point is set up from a description in which most things can be left out. A
description of a point that could never behave is refused, and of several flaws
the first one in a fixed order is named: the name, the alarm condition, the
default value.
-/

namespace Annunciator

/-- What is said about a point that is to be set up. -/
structure PointDescription where
  id : ObjectId
  name : Option String
  notificationClass : UInt32
  relinquishDefault : Option PointValue
  numberOfStates : Option UInt32
  alarm : Option AlarmCondition
  reporting : Reporting
  deriving DecidableEq, Repr

namespace PointDescription

/-- A description that says nothing beyond which object it is. -/
def of (id : ObjectId) : PointDescription :=
  ⟨id, none, 0, none, none, none, .standard⟩

/-- The default value: the given one, else inactive or state 1. -/
def defaultValue (description : PointDescription) : PointValue :=
  description.relinquishDefault.getD
    (if description.id.objectType.isBinary then .binary .inactive else .multiState 1)

/-- The number of states: the given one, else 2. Binary points have none. -/
def states (description : PointDescription) : Option UInt32 :=
  if description.id.objectType.isBinary then none
  else some (description.numberOfStates.getD 2)

/-- The alarm condition: the given one, else active, or no state at all. -/
def alarmCondition (description : PointDescription) : AlarmCondition :=
  description.alarm.getD
    (if description.id.objectType.isBinary then .binary .active else .multiState [] [])

/-- The kind of values that objects of the described type have. -/
def kind (description : PointDescription) : ValueKind :=
  if description.id.objectType.isBinary then .binary else .multiState

/-- The first alarm or fault value that is no state of the point. -/
def strayState? (condition : AlarmCondition) (max : UInt32) : Option UInt32 :=
  match condition with
  | .binary _ => none
  | .multiState alarmValues faultValues =>
      (alarmValues ++ faultValues).find? (isOutsideStates max)

/-- Refuse an alarm condition of the wrong kind, or about states there are not. -/
def checkAlarm (description : PointDescription) : Except ValidationError Unit :=
  if description.alarmCondition.kind ≠ description.kind then .error .valueKindMismatch
  else
    match description.states with
    | none => .ok ()
    | some max =>
        match strayState? description.alarmCondition max with
        | some state => .error (.stateOutOfRange state max)
        | none => .ok ()

/-- Set up the described point. -/
def build (description : PointDescription) : Except ValidationError Point := do
  let name := description.name.getD ""
  if name.isEmpty then
    throw .emptyName
  description.checkAlarm
  let ladder <- PriorityLadder.create description.defaultValue description.states
  pure {
    id := description.id
    name
    notificationClass := description.notificationClass
    ladder
    alarm := description.alarmCondition
    reliability := .noFaultDetected
    monitor := .create description.reporting }

end PointDescription

end Annunciator
