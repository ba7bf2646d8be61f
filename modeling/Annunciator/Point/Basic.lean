import Annunciator.Point.AlarmCondition
import Annunciator.PriorityLadder
import Annunciator.Report

/-!
# Points

A point is an object that takes commands and reports events. Its ladder holds its
value, its alarm condition judges the value, and its monitor follows the
judgement from tick to tick.
-/

namespace Annunciator

/-- An object with a commanded value and an event state. -/
structure Point where
  id : ObjectId
  name : String
  notificationClass : UInt32
  ladder : PriorityLadder
  alarm : AlarmCondition
  reliability : Reliability
  monitor : Monitor
  deriving DecidableEq, Repr

namespace Point

/-- The value of a point. -/
def presentValue (point : Point) : PointValue := point.ladder.resolve

/-- The flags that are reported alongside the value. -/
def statusFlags (point : Point) : StatusFlags where
  inAlarm := point.monitor.state ≠ .normal
  fault := point.reliability.isFault
  overridden := false
  outOfService := point.ladder.outOfService

/-- The wording of the announcement of an acknowledgment. -/
def ackMessage (state : EventState) : String := state.name ++ " acknowledged"

/-- The record of what a tick brought about, with the flags as they are after it. -/
def recordOf (point : Point) (now : Timestamp) (event : MonitorEvent) : EventRecord :=
  let blank : EventRecord := {
    object := point.id
    notificationClass := point.notificationClass
    timestamp := now
    origin := point.monitor.state
    target := point.monitor.state
    notifyType := point.monitor.reporting.notifyType
    eventType := .changeOfState
    message := ""
    value := point.presentValue
    statusFlags := point.statusFlags }
  match event with
  | .transition origin target =>
      let kind := (Transition.entering? target).getD .toOffnormal
      { blank with origin, target, message := point.monitor.messages.get kind }
  | .acknowledged state =>
      { blank with target := state, notifyType := .ackNotification, message := ackMessage state }

/-- Run one evaluation tick. -/
def tick (point : Point) (ackRequired : TransitionSet) (now : Timestamp) :
    Option EventRecord × Point :=
  let conditions := point.alarm.evaluate point.presentValue point.reliability
  let (event, monitor) := point.monitor.tick conditions ackRequired now
  let after := { point with monitor }
  (event.map (after.recordOf now), after)

/-- Carry out a change of the ladder that can be refused. -/
def command (point : Point)
    (change : PriorityLadder -> Except ProtocolError (Command × PriorityLadder)) :
    Except ProtocolError (Command × Point) := do
  let (command, ladder) <- change point.ladder
  pure (command, { point with ladder })

/-- Take the point in or out of service. -/
def setOutOfService (point : Point) (value : Bool) : Point :=
  { point with ladder := point.ladder.setOutOfService value }

/-- Whether the value or the service flag changed since this was last asked. -/
def takeChanged (point : Point) : Bool × Point :=
  let (flag, ladder) := point.ladder.takeChanged
  (flag, { point with ladder })

/-- Report how far the input behind the point can be trusted. -/
def setReliability (point : Point) (reliability : Reliability) : Point :=
  { point with reliability }

/-- Acknowledge a transition of the point. -/
def acknowledge (point : Point) (request : AckRequest) :
    Except AckError (AckOutcome × Point) := do
  let (outcome, monitor) <- point.monitor.acknowledge request.state request.timestamp
  pure (outcome, { point with monitor })

/-! ## Summaries -/

/-- The point among the active events, if it is one. -/
def eventSummary? (point : Point) (priorities : PerTransition UInt8) : Option EventSummary :=
  if point.monitor.hasActiveEvent then
    some {
      object := point.id
      state := point.monitor.state
      acked := point.monitor.acks.acked
      timestamps := point.monitor.timestamps
      notifyType := point.monitor.reporting.notifyType
      eventEnable := point.monitor.reporting.eventEnable
      priorities }
  else none

/-- The point among the active alarms, if it is one. -/
def alarmSummary? (point : Point) : Option AlarmSummary :=
  if point.monitor.hasActiveAlarm then
    some ⟨point.id, point.monitor.state, point.monitor.acks.acked⟩
  else none

instance : JsonForm Point where
  toJson point := .object
    [("id", toJson point.id),
      ("name", toJson point.name),
      ("notification_class", toJson point.notificationClass),
      ("point", toJson point.ladder),
      ("alarm", toJson point.alarm),
      ("reliability", toJson point.reliability),
      ("monitor", toJson point.monitor)]
  ofJson? value := do
    let members <- value.members?
    some {
      id := <- Json.required? members "id"
      name := <- Json.required? members "name"
      notificationClass := <- Json.required? members "notification_class"
      ladder := <- Json.required? members "point"
      alarm := <- Json.required? members "alarm"
      reliability := <- Json.required? members "reliability"
      monitor := <- Json.required? members "monitor" }

/-! ## Operations -/

/-- What can be asked of a point. -/
inductive Operation where
  | ladder (operation : PriorityLadder.Operation)
  | setReliability (reliability : Reliability)
  | setNotificationClass (number : UInt32)
  | tick (ackRequired : TransitionSet) (now : Timestamp)
  | acknowledge (request : AckRequest)
  | setTimeDelay (ticks : UInt32)
  | setEventEnable (kinds : TransitionSet)
  | setNotifyType (type : NotifyType)
  deriving DecidableEq, Repr

/-- What a point answers to an operation. -/
inductive Answer where
  | ladder (answer : PriorityLadder.Answer)
  | reliability (reliability : Reliability)
  | record (record : Option EventRecord)
  | acked (outcome : AckOutcome)
  | notAcked (error : AckError)
  | done
  deriving DecidableEq, Repr

/-- Carry out one operation. What is refused changes nothing. -/
def perform (point : Point) : Operation -> Answer × Point
  | .ladder operation =>
      let (answer, ladder) := point.ladder.perform operation
      (.ladder answer, { point with ladder })
  | .setReliability reliability => (.reliability reliability, point.setReliability reliability)
  | .setNotificationClass number => (.done, { point with notificationClass := number })
  | .tick ackRequired now =>
      let (record, after) := point.tick ackRequired now
      (.record record, after)
  | .acknowledge request =>
      match point.acknowledge request with
      | .ok (outcome, after) => (.acked outcome, after)
      | .error error => (.notAcked error, point)
  | .setTimeDelay ticks => (.done, { point with monitor := point.monitor.setTimeDelay ticks })
  | .setEventEnable kinds => (.done, { point with monitor := point.monitor.setEventEnable kinds })
  | .setNotifyType type => (.done, { point with monitor := point.monitor.setNotifyType type })

end Point

end Annunciator
