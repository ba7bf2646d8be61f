import Annunciator.Calendar.Written
import Annunciator.Failure

/-!
# Acknowledgments

An operator acknowledges a transition by naming the state it ended in and the
time it happened. A point keeps, for each kind of transition, the time of the
last one and whether it still waits to be acknowledged.
-/

namespace Annunciator

/-- The time stamp carried by an acknowledgment. Only a full moment can be
compared with the time of a transition. -/
inductive EventTimeStamp where
  | timeOfDay (time : TimeOfDay)
  | sequenceNumber (number : UInt16)
  | dateTime (moment : Timestamp)
  deriving DecidableEq, Repr

namespace EventTimeStamp

/-- The written names of the forms of time stamps. -/
def forms : List String := ["time", "sequence_number", "date_time"]

/-- The moment of a time stamp, if it has one. -/
def moment? : EventTimeStamp -> Option Timestamp
  | dateTime moment => some moment
  | timeOfDay _ | sequenceNumber _ => none

instance : JsonForm EventTimeStamp where
  toJson
    | timeOfDay time => .object [("type", .text "time"), ("value", toJson time)]
    | sequenceNumber number =>
        .object [("type", .text "sequence_number"), ("value", toJson number)]
    | dateTime moment => .object [("type", .text "date_time"), ("value", toJson moment)]
  ofJson? value := do
    let members <- value.members?
    match <- Json.requiredBy? members "type" (Json.named? forms id) with
    | "time" => some (.timeOfDay (<- Json.required? members "value"))
    | "sequence_number" => some (.sequenceNumber (<- Json.required? members "value"))
    | "date_time" => some (.dateTime (<- Json.required? members "value"))
    | _ => none

end EventTimeStamp

/-- What is known of the last transition of one kind. -/
structure AckedTransition where
  isAcked : Bool
  /-- The time of the transition; nothing until the first one of its kind. -/
  timestamp : Option Timestamp
  deriving DecidableEq, Repr

namespace AckedTransition

/-- Before the first transition of a kind there is nothing to acknowledge. -/
def initial : AckedTransition := ⟨true, none⟩

instance : JsonForm AckedTransition where
  toJson entry := .object
    [("is_acked", toJson entry.isAcked), ("timestamp", toJson entry.timestamp)]
  ofJson? value := do
    let members <- value.members?
    some ⟨<- Json.required? members "is_acked", <- Json.required? members "timestamp"⟩

end AckedTransition

/-- What a granted acknowledgment did. -/
inductive AckOutcome where
  /-- The transition is acknowledged now, which is still to be announced. -/
  | acknowledged
  /-- The transition into the current state was acknowledged before. -/
  | alreadyAcknowledged
  deriving DecidableEq, Repr

/-- The written name of an outcome. -/
def AckOutcome.name : AckOutcome -> String
  | acknowledged => "acknowledged"
  | alreadyAcknowledged => "already_acknowledged"

/-- An acknowledgment sent to an object. -/
structure AckRequest where
  processId : UInt32
  object : ObjectId
  state : EventState
  /-- The time of the transition that is acknowledged. -/
  timestamp : EventTimeStamp
  source : String
  timeOfAck : EventTimeStamp
  deriving DecidableEq, Repr

instance : JsonForm AckRequest where
  toJson request := .object
    [("acknowledging_process_id", toJson request.processId),
      ("event_object", toJson request.object),
      ("event_state_acked", toJson request.state),
      ("timestamp", toJson request.timestamp),
      ("source", toJson request.source),
      ("time_of_ack", toJson request.timeOfAck)]
  ofJson? value := do
    let members <- value.members?
    some {
      processId := <- Json.required? members "acknowledging_process_id"
      object := <- Json.required? members "event_object"
      state := <- Json.required? members "event_state_acked"
      timestamp := <- Json.required? members "timestamp"
      source := <- Json.required? members "source"
      timeOfAck := <- Json.required? members "time_of_ack" }

/-- The acknowledgments of one object, one entry per kind of transition. -/
structure AckTracker where
  entries : PerTransition AckedTransition
  deriving DecidableEq, Repr

namespace AckTracker

/-- No transition has happened yet. -/
def initial : AckTracker := ⟨.replicate .initial⟩

/-- What is known of the last transition of a kind. -/
def get (tracker : AckTracker) (kind : Transition) : AckedTransition :=
  tracker.entries.get kind

/-- The kinds with nothing left to acknowledge. -/
def acked (tracker : AckTracker) : TransitionSet where
  toOffnormal := tracker.entries.toOffnormal.isAcked
  toFault := tracker.entries.toFault.isAcked
  toNormal := tracker.entries.toNormal.isAcked

/-- Whether no kind has anything left to acknowledge. -/
def allAcked (tracker : AckTracker) : Bool :=
  Transition.all.all fun kind => (tracker.get kind).isAcked

/-- Enter a transition. It waits for an acknowledgment only if one is required. -/
def record (tracker : AckTracker) (kind : Transition) (moment : Timestamp)
    (ackRequired : Bool) : AckTracker :=
  ⟨tracker.entries.set kind ⟨!ackRequired, some moment⟩⟩

/-- Acknowledge the transition into a state. What is acknowledged already can be
acknowledged again while the object is still in that state. What is not takes a
moment no earlier than the transition itself. -/
def acknowledge (tracker : AckTracker) (state current : EventState)
    (timestamp : EventTimeStamp) : Except AckError (AckOutcome × AckTracker) :=
  match Transition.entering? state with
  | none => .error (.unsupportedState state)
  | some kind =>
      let entry := tracker.get kind
      if entry.isAcked then
        if state = current then .ok (.alreadyAcknowledged, tracker)
        else .error (.rejected .invalidEventState)
      else
        match timestamp.moment? with
        | none => .error (.rejected .invalidTimeStamp)
        | some moment =>
            if entry.timestamp.any (moment < ·) then
              .error (.rejected .invalidTimeStamp)
            else
              .ok (.acknowledged, ⟨tracker.entries.set kind { entry with isAcked := true }⟩)

instance : JsonForm AckTracker where
  toJson tracker := .object [("transitions", toJson tracker.entries)]
  ofJson? value := do
    let members <- value.members?
    some ⟨<- Json.required? members "transitions"⟩

end AckTracker

end Annunciator
