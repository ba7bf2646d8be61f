import Annunciator.Acknowledgment

/-!
# The event monitor

The monitor decides when an object changes its event state. An evaluation tick
brings it two signals: whether the off-normal condition holds and whether there
is a fault.

Going off-normal and coming back takes time: the condition has to hold for a
number of ticks, counted down from the time delay, and a tick on which it does
not hold starts the count again. Faults come and go at once, and while one lasts
nothing is counted. A tick that finds an acknowledgment to be announced does
that and nothing else.
-/

namespace Annunciator

/-- The signals of an evaluation tick. -/
structure Conditions where
  offnormal : Bool
  fault : Bool
  deriving DecidableEq, Repr

/-- What an evaluation tick brings about. -/
inductive MonitorEvent where
  | transition (origin target : EventState)
  /-- An acknowledgment of the transition into this state is announced. -/
  | acknowledged (state : EventState)
  deriving DecidableEq, Repr

/-- How an object reports its events. -/
structure Reporting where
  /-- The number of ticks that an off-normal condition, or its end, has to last. -/
  timeDelay : UInt32
  /-- The kinds of transitions that may happen. -/
  eventEnable : TransitionSet
  notifyType : NotifyType
  deriving DecidableEq, Repr

namespace Reporting

/-- Without further words, every transition is an alarm and happens at once. -/
def standard : Reporting := ⟨0, .all, .alarm⟩

instance : JsonForm Reporting where
  toJson reporting := .object
    [("time_delay", toJson reporting.timeDelay),
      ("event_enable", toJson reporting.eventEnable),
      ("notify_type", toJson reporting.notifyType)]
  ofJson? value := do
    let members <- value.members?
    some {
      timeDelay := <- Json.defaulted? members "time_delay" standard.timeDelay
      eventEnable := <- Json.defaulted? members "event_enable" standard.eventEnable
      notifyType := <- Json.defaulted? members "notify_type" standard.notifyType }

end Reporting

/-- The event state of one object and what is kept about its transitions. -/
structure Monitor where
  reporting : Reporting
  state : EventState
  /-- The ticks left until a timed transition happens. -/
  remaining : UInt32
  acks : AckTracker
  timestamps : PerTransition (Option Timestamp)
  messages : PerTransition String
  /-- The state whose acknowledgment is still to be announced. -/
  pendingAck : Option EventState
  deriving DecidableEq, Repr

/-- One less, but never below zero. -/
def countDown (ticks : UInt32) : UInt32 := if ticks = 0 then 0 else ticks - 1

namespace Monitor

/-- A monitor that has seen nothing yet. -/
def create (reporting : Reporting) : Monitor where
  reporting
  state := .normal
  remaining := reporting.timeDelay
  acks := .initial
  timestamps := .replicate none
  messages := .replicate ""
  pendingAck := none

/-- Whether a kind of transition may happen. -/
def allows (monitor : Monitor) (kind : Transition) : Bool :=
  monitor.reporting.eventEnable.contains kind

/-- Not normal, or with some transition left to acknowledge. -/
def hasActiveEvent (monitor : Monitor) : Bool :=
  monitor.state ≠ .normal || !monitor.acks.allAcked

/-- Not normal, and reported as an alarm. -/
def hasActiveAlarm (monitor : Monitor) : Bool :=
  monitor.state ≠ .normal && monitor.reporting.notifyType = .alarm

/-! ## Settings -/

/-- Change the time delay; the count starts again from it. -/
def setTimeDelay (monitor : Monitor) (ticks : UInt32) : Monitor :=
  { monitor with reporting.timeDelay := ticks, remaining := ticks }

/-- Change which kinds of transitions may happen. -/
def setEventEnable (monitor : Monitor) (kinds : TransitionSet) : Monitor :=
  { monitor with reporting.eventEnable := kinds }

/-- Change what transitions are reported as. -/
def setNotifyType (monitor : Monitor) (type : NotifyType) : Monitor :=
  { monitor with reporting.notifyType := type }

/-! ## Ticks -/

/-- The wording kept for a transition between two states. -/
def transitionMessage (origin target : EventState) : String :=
  origin.name ++ " to " ++ target.name

/-- Make a transition happen. -/
def fire (monitor : Monitor) (kind : Transition) (ackRequired : TransitionSet)
    (now : Timestamp) : Option MonitorEvent × Monitor :=
  (some (.transition monitor.state kind.target),
    { monitor with
      state := kind.target
      remaining := monitor.reporting.timeDelay
      timestamps := monitor.timestamps.set kind (some now)
      messages := monitor.messages.set kind (transitionMessage monitor.state kind.target)
      acks := monitor.acks.record kind now (ackRequired.contains kind) })

/-- The timed transition out of a state, and whether its condition holds. -/
def timedExit? (state : EventState) (offnormal : Bool) : Option (Transition × Bool) :=
  match state with
  | .normal => some (.toOffnormal, offnormal)
  | .offnormal => some (.toNormal, !offnormal)
  | _ => none

/-- Count one tick towards a timed transition, or start the count again. -/
def countTick (monitor : Monitor) (offnormal : Bool) (ackRequired : TransitionSet)
    (now : Timestamp) : Option MonitorEvent × Monitor :=
  match timedExit? monitor.state offnormal with
  | none => (none, monitor)
  | some (kind, leaving) =>
      if leaving && monitor.allows kind then
        let counted := { monitor with remaining := countDown monitor.remaining }
        if counted.remaining = 0 then counted.fire kind ackRequired now
        else (none, counted)
      else
        (none, { monitor with remaining := monitor.reporting.timeDelay })

/-- Evaluate the signals of a tick on which nothing is announced. -/
def evaluate (monitor : Monitor) (conditions : Conditions) (ackRequired : TransitionSet)
    (now : Timestamp) : Option MonitorEvent × Monitor :=
  if monitor.state = .fault then
    if !conditions.fault && monitor.allows .toNormal then
      monitor.fire .toNormal ackRequired now
    else (none, monitor)
  else if conditions.fault && monitor.allows .toFault then
    monitor.fire .toFault ackRequired now
  else
    monitor.countTick conditions.offnormal ackRequired now

/-- Run one evaluation tick. A pending announcement takes the whole tick. The
`ackRequired` kinds wait for an acknowledgment if they happen now. -/
def tick (monitor : Monitor) (conditions : Conditions) (ackRequired : TransitionSet)
    (now : Timestamp) : Option MonitorEvent × Monitor :=
  match monitor.pendingAck with
  | some state => (some (.acknowledged state), { monitor with pendingAck := none })
  | none => monitor.evaluate conditions ackRequired now

/-- Acknowledge the transition into a state. The next tick announces it, unless
it had been acknowledged before. -/
def acknowledge (monitor : Monitor) (state : EventState) (timestamp : EventTimeStamp) :
    Except AckError (AckOutcome × Monitor) :=
  match monitor.acks.acknowledge state monitor.state timestamp with
  | .error error => .error error
  | .ok (.acknowledged, acks) =>
      .ok (.acknowledged, { monitor with acks, pendingAck := some state })
  | .ok (.alreadyAcknowledged, acks) => .ok (.alreadyAcknowledged, { monitor with acks })

instance : JsonForm Monitor where
  toJson monitor := .object
    [("config", toJson monitor.reporting),
      ("state", toJson monitor.state),
      ("remaining_time_delay", toJson monitor.remaining),
      ("acked", toJson monitor.acks),
      ("event_time_stamps", toJson monitor.timestamps),
      ("event_message_texts", toJson monitor.messages),
      ("pending_ack", toJson monitor.pendingAck)]
  ofJson? value := do
    let members <- value.members?
    some {
      reporting := <- Json.required? members "config"
      state := <- Json.required? members "state"
      remaining := <- Json.required? members "remaining_time_delay"
      acks := <- Json.required? members "acked"
      timestamps := <- Json.required? members "event_time_stamps"
      messages := <- Json.required? members "event_message_texts"
      pendingAck := <- Json.required? members "pending_ack" }

/-! ## Operations -/

/-- What can be asked of a monitor. -/
inductive Operation where
  | tick (conditions : Conditions) (ackRequired : TransitionSet) (now : Timestamp)
  | acknowledge (state : EventState) (timestamp : EventTimeStamp)
  | setTimeDelay (ticks : UInt32)
  | setEventEnable (kinds : TransitionSet)
  | setNotifyType (type : NotifyType)
  deriving DecidableEq, Repr

/-- What a monitor answers to an operation. -/
inductive Answer where
  | event (event : Option MonitorEvent)
  | acked (outcome : AckOutcome)
  | notAcked (error : AckError)
  | done
  deriving DecidableEq, Repr

/-- Carry out one operation. A refused acknowledgment changes nothing. -/
def perform (monitor : Monitor) : Operation -> Answer × Monitor
  | .tick conditions ackRequired now =>
      let (event, after) := monitor.tick conditions ackRequired now
      (.event event, after)
  | .acknowledge state timestamp =>
      match monitor.acknowledge state timestamp with
      | .ok (outcome, after) => (.acked outcome, after)
      | .error error => (.notAcked error, monitor)
  | .setTimeDelay ticks => (.done, monitor.setTimeDelay ticks)
  | .setEventEnable kinds => (.done, monitor.setEventEnable kinds)
  | .setNotifyType type => (.done, monitor.setNotifyType type)

end Monitor

end Annunciator
