import Annunciator.Json.Form

/-!
# Values

The values a point can have, the values that can be written to it, and what is
reported about it alongside its value.
-/

namespace Annunciator

/-- The value of a binary point. -/
inductive BinaryValue where
  | inactive
  | active
  deriving DecidableEq, Repr

namespace BinaryValue

/-- Both binary values. -/
def all : List BinaryValue := [inactive, active]

/-- The written name of a binary value. -/
def name : BinaryValue -> String
  | inactive => "inactive"
  | active => "active"

instance : JsonForm BinaryValue where
  toJson value := .text value.name
  ofJson? := Json.named? all name

end BinaryValue

/-- The two kinds of point values. -/
inductive ValueKind where
  | binary
  | multiState
  deriving DecidableEq, Repr

namespace ValueKind

/-- Both kinds. -/
def all : List ValueKind := [binary, multiState]

/-- The written name of a kind. -/
def name : ValueKind -> String
  | binary => "binary"
  | multiState => "multi_state"

instance : JsonForm ValueKind where
  toJson kind := .text kind.name
  ofJson? := Json.named? all name

end ValueKind

/-- The value of a point: active or inactive, or the number of a state, counted
from 1. -/
inductive PointValue where
  | binary (value : BinaryValue)
  | multiState (state : UInt32)
  deriving DecidableEq, Repr

namespace PointValue

/-- The kind of a value. -/
def kind : PointValue -> ValueKind
  | binary _ => .binary
  | multiState _ => .multiState

/-- The written form of a value, such as `active` or `state 3`. -/
def display : PointValue -> String
  | binary value => value.name
  | multiState state => "state " ++ toString state.toNat

/-- Read a value after its names have been brought into a form that can be read. -/
def ofTree? (prepare : Json -> Json) (value : Json) : Option PointValue := do
  let members <- value.members?
  match <- Json.requiredBy? members "kind" (ofJson? ∘ prepare) with
  | ValueKind.binary =>
      some (.binary (<- Json.requiredBy? members "value" (ofJson? ∘ prepare)))
  | ValueKind.multiState => some (.multiState (<- Json.required? members "value"))

instance : JsonForm PointValue where
  toJson
    | binary value => .object [("kind", toJson ValueKind.binary), ("value", toJson value)]
    | multiState state =>
        .object [("kind", toJson ValueKind.multiState), ("value", toJson state)]
  ofJson? := ofTree? id

end PointValue

/-- What can be written at a priority: a value, or nothing, which gives the
priority up. -/
inductive WriteValue where
  | null
  | value (value : PointValue)
  deriving DecidableEq, Repr

instance : JsonForm WriteValue where
  toJson
    | .null => .text "null"
    | .value value => .object [("value", toJson value)]
  ofJson?
    | .text "null" => some .null
    | .object [("null", .null)] => some .null
    | .object [("value", value)] => (ofJson? value).map .value
    | _ => none

/-- How far the input behind a point can be trusted. -/
inductive Reliability where
  | noFaultDetected
  | noSensor
  | overRange
  | underRange
  | openLoop
  | shortedLoop
  | noOutput
  | unreliableOther
  | processError
  | multiStateFault
  | communicationFailure
  deriving DecidableEq, Repr

namespace Reliability

/-- All degrees of reliability. -/
def all : List Reliability :=
  [noFaultDetected, noSensor, overRange, underRange, openLoop, shortedLoop, noOutput,
    unreliableOther, processError, multiStateFault, communicationFailure]

/-- The written name of a reliability. -/
def name : Reliability -> String
  | noFaultDetected => "no-fault-detected"
  | noSensor => "no-sensor"
  | overRange => "over-range"
  | underRange => "under-range"
  | openLoop => "open-loop"
  | shortedLoop => "shorted-loop"
  | noOutput => "no-output"
  | unreliableOther => "unreliable-other"
  | processError => "process-error"
  | multiStateFault => "multi-state-fault"
  | communicationFailure => "communication-failure"

/-- Everything but a clean bill is a fault. -/
def isFault (reliability : Reliability) : Bool := reliability ≠ noFaultDetected

instance : JsonForm Reliability where
  toJson reliability := .text reliability.name
  ofJson? := Json.named? all name

end Reliability

/-- The flags reported alongside values and events. -/
structure StatusFlags where
  inAlarm : Bool
  fault : Bool
  overridden : Bool
  outOfService : Bool
  deriving DecidableEq, Repr

instance : JsonForm StatusFlags where
  toJson flags := .object
    [("in_alarm", toJson flags.inAlarm), ("fault", toJson flags.fault),
      ("overridden", toJson flags.overridden), ("out_of_service", toJson flags.outOfService)]
  ofJson? value := do
    let members <- value.members?
    some {
      inAlarm := <- Json.required? members "in_alarm"
      fault := <- Json.required? members "fault"
      overridden := <- Json.required? members "overridden"
      outOfService := <- Json.required? members "out_of_service" }

end Annunciator
