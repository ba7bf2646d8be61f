import Annunciator.Calendar.Written
import Annunciator.EventId
import Annunciator.EventState
import Annunciator.Identity
import Annunciator.Value

/-!
# Reports

What a station tells others about its objects: the records of events, the
notifications made from them for single recipients, the events on its own bus,
and the summaries it answers queries with.
-/

namespace Annunciator

/-! ## Records and notifications -/

/-- What an object reported on a tick: a transition, or the announcement of an
acknowledgment, in which case `target` is the state that was acknowledged. -/
structure EventRecord where
  object : ObjectId
  notificationClass : UInt32
  timestamp : Timestamp
  origin : EventState
  target : EventState
  notifyType : NotifyType
  eventType : EventType
  message : String
  value : PointValue
  statusFlags : StatusFlags
  deriving DecidableEq, Repr

namespace EventRecord

/-- The kind of transition that a record is delivered as. -/
def transition? (record : EventRecord) : Option Transition :=
  Transition.entering? record.target

/-- Whether a record announces an acknowledgment. -/
def isAckNotification (record : EventRecord) : Bool :=
  record.notifyType = .ackNotification

instance : JsonForm EventRecord where
  toJson record := .object
    [("object", toJson record.object),
      ("notification_class", toJson record.notificationClass),
      ("timestamp", toJson record.timestamp),
      ("from_state", toJson record.origin),
      ("to_state", toJson record.target),
      ("notify_type", toJson record.notifyType),
      ("event_type", toJson record.eventType),
      ("message", toJson record.message),
      ("value", toJson record.value),
      ("status_flags", toJson record.statusFlags)]
  ofJson? value := do
    let members <- value.members?
    some {
      object := <- Json.required? members "object"
      notificationClass := <- Json.required? members "notification_class"
      timestamp := <- Json.required? members "timestamp"
      origin := <- Json.required? members "from_state"
      target := <- Json.required? members "to_state"
      notifyType := <- Json.required? members "notify_type"
      eventType := <- Json.required? members "event_type"
      message := <- Json.required? members "message"
      value := <- Json.required? members "value"
      statusFlags := <- Json.required? members "status_flags" }

end EventRecord

/-- A notification as it goes to one recipient. -/
structure EventNotification where
  processId : UInt32
  initiatingDevice : DeviceInstance
  object : ObjectId
  timestamp : Timestamp
  notificationClass : UInt32
  priority : UInt8
  eventType : EventType
  message : String
  notifyType : NotifyType
  ackRequired : Bool
  origin : EventState
  target : EventState
  /-- Nothing when an acknowledgment is announced. -/
  newValue : Option PointValue
  /-- Nothing when an acknowledgment is announced. -/
  statusFlags : Option StatusFlags
  deriving DecidableEq, Repr

instance : JsonForm EventNotification where
  toJson notification := .object
    [("process_id", toJson notification.processId),
      ("initiating_device", toJson notification.initiatingDevice),
      ("event_object", toJson notification.object),
      ("timestamp", toJson notification.timestamp),
      ("notification_class", toJson notification.notificationClass),
      ("priority", toJson notification.priority),
      ("event_type", toJson notification.eventType),
      ("message_text", toJson notification.message),
      ("notify_type", toJson notification.notifyType),
      ("ack_required", toJson notification.ackRequired),
      ("from_state", toJson notification.origin),
      ("to_state", toJson notification.target),
      ("new_value", toJson notification.newValue),
      ("status_flags", toJson notification.statusFlags)]
  ofJson? value := do
    let members <- value.members?
    some {
      processId := <- Json.required? members "process_id"
      initiatingDevice := <- Json.required? members "initiating_device"
      object := <- Json.required? members "event_object"
      timestamp := <- Json.required? members "timestamp"
      notificationClass := <- Json.required? members "notification_class"
      priority := <- Json.required? members "priority"
      eventType := <- Json.required? members "event_type"
      message := <- Json.required? members "message_text"
      notifyType := <- Json.required? members "notify_type"
      ackRequired := <- Json.required? members "ack_required"
      origin := <- Json.required? members "from_state"
      target := <- Json.required? members "to_state"
      newValue := <- Json.required? members "new_value"
      statusFlags := <- Json.required? members "status_flags" }

/-! ## Bus events -/

/-- What a bus event says happened. -/
inductive Occurrence where
  | valueChanged (value : PointValue) (statusFlags : StatusFlags)
  | stateTransition (origin target : EventState) (notifyType : NotifyType) (message : String)
  | ackNotification (state : EventState)
  deriving DecidableEq, Repr

instance : JsonForm Occurrence where
  toJson
    | .valueChanged value statusFlags => .object
        [("type", .text "value_changed"), ("value", toJson value),
          ("status_flags", toJson statusFlags)]
    | .stateTransition origin target notifyType message => .object
        [("type", .text "state_transition"), ("from", toJson origin), ("to", toJson target),
          ("notify_type", toJson notifyType), ("message", toJson message)]
    | .ackNotification state => .object
        [("type", .text "ack_notification"), ("acked_state", toJson state)]
  ofJson? value := do
    let members <- value.members?
    let state (name : String) : Option EventState :=
      Json.requiredBy? members name (ofJson? ∘ Json.bareName)
    match <- Json.required? members "type" with
    | "value_changed" =>
        some (.valueChanged
          (<- Json.requiredBy? members "value" (PointValue.ofTree? Json.bareName))
          (<- Json.required? members "status_flags"))
    | "state_transition" =>
        some (.stateTransition (<- state "from") (<- state "to")
          (<- Json.requiredBy? members "notify_type" (ofJson? ∘ Json.bareName))
          (<- Json.required? members "message"))
    | "ack_notification" => some (.ackNotification (<- state "acked_state"))
    | _ => none

/-- Something that happened to an object, as it is published on the bus. -/
structure BusEvent where
  object : ObjectId
  occurrence : Occurrence
  timestamp : Timestamp
  deriving DecidableEq, Repr

namespace BusEvent

/-- The members of the saved form of an event. -/
def jsonMembers (event : BusEvent) : List (String × Json) :=
  [("object", toJson event.object), ("kind", toJson event.occurrence),
    ("timestamp", toJson event.timestamp)]

/-- Read an event from the members of its saved form. -/
def ofJsonMembers? (members : List (String × Json)) : Option BusEvent := do
  some {
    object := <- Json.required? members "object"
    occurrence := <- Json.required? members "kind"
    timestamp := <- Json.required? members "timestamp" }

instance : JsonForm BusEvent where
  toJson event := .object event.jsonMembers
  ofJson? value := value.members?.bind ofJsonMembers?

/-- The bus event that a record is published as. -/
def ofRecord (record : EventRecord) : BusEvent where
  object := record.object
  occurrence :=
    if record.isAckNotification then .ackNotification record.target
    else .stateTransition record.origin record.target record.notifyType record.message
  timestamp := record.timestamp

end BusEvent

/-- A bus event under its identifier. -/
structure IdentifiedEvent where
  id : EventId
  event : BusEvent
  deriving DecidableEq, Repr

instance : JsonForm IdentifiedEvent where
  toJson identified := .object (("id", toJson identified.id) :: identified.event.jsonMembers)
  ofJson? value := do
    let members <- value.members?
    some ⟨<- Json.required? members "id", <- BusEvent.ofJsonMembers? members⟩

/-! ## Summaries -/

/-- The answer to a question about the object at some place of a list. -/
inductive Slot (α : Type) where
  | active (summary : α)
  /-- There is such an object, with nothing to report. -/
  | inactive
  /-- There is no such place. -/
  | endOfList
  deriving DecidableEq, Repr

/-- An object that is not normal or waits for acknowledgments. -/
structure EventSummary where
  object : ObjectId
  state : EventState
  acked : TransitionSet
  timestamps : PerTransition (Option Timestamp)
  notifyType : NotifyType
  eventEnable : TransitionSet
  priorities : PerTransition UInt8
  deriving DecidableEq, Repr

instance : JsonForm EventSummary where
  toJson summary := .object
    [("object", toJson summary.object),
      ("event_state", toJson summary.state),
      ("acked_transitions", toJson summary.acked),
      ("event_time_stamps", toJson summary.timestamps),
      ("notify_type", toJson summary.notifyType),
      ("event_enable", toJson summary.eventEnable),
      ("event_priorities", toJson summary.priorities)]
  ofJson? value := do
    let members <- value.members?
    some {
      object := <- Json.required? members "object"
      state := <- Json.required? members "event_state"
      acked := <- Json.required? members "acked_transitions"
      timestamps := <- Json.required? members "event_time_stamps"
      notifyType := <- Json.required? members "notify_type"
      eventEnable := <- Json.required? members "event_enable"
      priorities := <- Json.required? members "event_priorities" }

/-- An object that is not normal and reports alarms. -/
structure AlarmSummary where
  object : ObjectId
  state : EventState
  acked : TransitionSet
  deriving DecidableEq, Repr

instance : JsonForm AlarmSummary where
  toJson summary := .object
    [("object", toJson summary.object), ("alarm_state", toJson summary.state),
      ("acked_transitions", toJson summary.acked)]
  ofJson? value := do
    let members <- value.members?
    some {
      object := <- Json.required? members "object"
      state := <- Json.required? members "alarm_state"
      acked := <- Json.required? members "acked_transitions" }

/-- A page of the active events of a station. -/
structure EventInformation where
  summaries : List EventSummary
  /-- Whether active events follow after the last one of the page. -/
  moreEvents : Bool
  deriving DecidableEq, Repr

instance : JsonForm EventInformation where
  toJson page := .object
    [("summaries", toJson page.summaries), ("more_events", toJson page.moreEvents)]
  ofJson? value := do
    let members <- value.members?
    some ⟨<- Json.required? members "summaries", <- Json.required? members "more_events"⟩

end Annunciator
