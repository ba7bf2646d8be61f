import Annunciator.Configuration.Basic

/-!
# Reading configurations

A configuration is read from a data tree. A missing part falls back on its usual
value, and a part that is there has to be readable. The two kinds of texts that
trees come from differ in what they let pass.
-/

namespace Annunciator

/-- The kind of text that a tree comes from. -/
inductive Dialect where
  | json
  | toml
  deriving DecidableEq, Repr

namespace Dialect

/-- A list of fixed length. In TOML it may go on, and what follows is ignored. -/
def fixedList (dialect : Dialect) (length : Nat) : Json -> Json
  | .list items => .list (if dialect = .toml then items.take length else items)
  | value => value

/-- A name. In TOML an empty table or list may be attached to it. -/
def bareName (dialect : Dialect) (value : Json) : Json :=
  match dialect, value with
  | .json, value => value
  | .toml, .object [(name, .list [])] => .text name
  | .toml, value => value.bareName

/-- A record. In TOML its values may also be listed in the order of their names. -/
def record (dialect : Dialect) (names : List String) (value : Json) : Json :=
  match dialect, value with
  | .toml, .list items => .object (names.zip items)
  | _, value => value

/-- Which kinds of transitions are meant. -/
def transitions (dialect : Dialect) : Json -> Json :=
  dialect.record ["to_offnormal", "to_fault", "to_normal"]

/-- A member that says which kinds of transitions are meant. -/
def transitionsOr? (dialect : Dialect) (members : List (String × Json)) (name : String)
    (default : TransitionSet) : Option TransitionSet :=
  Json.defaultedBy? members name (ofJson? ∘ dialect.transitions) default

/-- A recipient, whose address is a record. -/
def recipient (dialect : Dialect) : Json -> Json
  | .object [("address", value)] =>
      .object [("address", dialect.record ["network", "mac"] value)]
  | value => value

/-- A destination, which has records among its members. -/
def destination (dialect : Dialect) (value : Json) : Json :=
  let names := ["valid_days", "from_time", "to_time", "recipient", "process_id", "confirmed",
    "transitions"]
  match dialect.record names value with
  | .object members => .object (members.map fun (name, member) =>
      match name with
      | "recipient" => (name, dialect.recipient member)
      | "transitions" => (name, dialect.transitions member)
      | _ => (name, member))
  | value => value

end Dialect

/-- A value of a point: its name or the number of a state. -/
def pointValue? (value : Json) : Option PointValue :=
  match (ofJson? value : Option BinaryValue) with
  | some name => some (.binary name)
  | none => (ofJson? value).map .multiState

namespace ClassEntry

/-- Read a notification class. -/
def ofTree? (dialect : Dialect) (value : Json) : Option ClassEntry := do
  let names := ["instance", "priority", "ack_required", "recipients"]
  let members <- (dialect.record names value).members?
  let priority (value : Json) : Option (PerTransition UInt8) :=
    ofJson? (dialect.fixedList 3 value)
  some {
    number := <- Json.required? members "instance"
    priority := <- Json.defaultedBy? members "priority" priority (.replicate defaultPriority)
    ackRequired := <- dialect.transitionsOr? members "ack_required" .none
    recipients := <- Json.listedBy? members "recipients" (ofJson? ∘ dialect.destination) }

end ClassEntry

namespace CommandEntry

/-- Read a first command. -/
def ofTree? (dialect : Dialect) (value : Json) : Option CommandEntry := do
  let members <- (dialect.record ["priority", "value"] value).members?
  some {
    priority := <- Json.required? members "priority"
    value := <- Json.requiredBy? members "value" pointValue? }

end CommandEntry

namespace PointEntry

/-- The names of the members of a point, in order. -/
def names : List String :=
  ["object_type", "instance", "name", "notification_class", "relinquish_default",
    "number_of_states", "alarm_value", "alarm_values", "fault_values", "time_delay",
    "event_enable", "notify_type", "commands"]

/-- Whether a list of values is too short for a point: what can only be left out by
its name has to be listed. -/
def isCutShort : Json -> Bool
  | .list items => items.length < 7
  | _ => false

/-- Read a point. -/
def ofTree? (dialect : Dialect) (value : Json) : Option PointEntry := do
  if isCutShort value then none
  let members <- (dialect.record names value).members?
  let alarmValue (value : Json) : Option BinaryValue := ofJson? (dialect.bareName value)
  let objectType (value : Json) : Option ObjectType := ofJson? (dialect.bareName value)
  let notifyType (value : Json) : Option NotifyType := ofJson? (dialect.bareName value)
  let standard := Reporting.standard
  some {
    objectType := <- Json.requiredBy? members "object_type" objectType
    number := <- Json.required? members "instance"
    name := <- Json.required? members "name"
    notificationClass := <- Json.defaulted? members "notification_class" 0
    relinquishDefault :=
      <- Json.requiredBy? members "relinquish_default" (Json.orNull? pointValue?)
    numberOfStates := <- Json.required? members "number_of_states"
    alarmValue := <- Json.requiredBy? members "alarm_value" (Json.orNull? alarmValue)
    alarmValues := <- Json.defaulted? members "alarm_values" []
    faultValues := <- Json.defaulted? members "fault_values" []
    reporting := {
      timeDelay := <- Json.defaulted? members "time_delay" standard.timeDelay
      eventEnable := <- dialect.transitionsOr? members "event_enable" standard.eventEnable
      notifyType :=
        <- Json.defaultedBy? members "notify_type" notifyType standard.notifyType }
    commands := <- Json.listedBy? members "commands" (CommandEntry.ofTree? dialect) }

end PointEntry

namespace PeerEntry

/-- Read a peer. -/
def ofTree? (dialect : Dialect) (value : Json) : Option PeerEntry := do
  let members <- (dialect.record ["device", "network", "mac"] value).members?
  some {
    device := <- Json.required? members "device"
    address := {
      network := <- Json.defaulted? members "network" 0
      mac := <- Json.required? members "mac" } }

end PeerEntry

namespace Configuration

/-- Read a configuration. -/
def ofTree? (dialect : Dialect) (value : Json) : Option Configuration := do
  let standard := Configuration.standard
  let members <- value.members?
  let part (name : String) (names : List String) : Option (List (String × Json)) :=
    Json.defaultedBy? members name (fun value => (dialect.record names value).members?) []
  let identity <- part "device" ["instance", "name"]
  let pace <- part "engine" ["tick_ms", "sweep_secs", "bus_capacity"]
  let logging <- part "logging" ["filter"]
  some {
    device := <- Json.defaulted? identity "instance" standard.device
    name := <- Json.defaulted? identity "name" standard.name
    tickMilliseconds := <- Json.defaulted? pace "tick_ms" standard.tickMilliseconds
    sweepSeconds := <- Json.defaulted? pace "sweep_secs" standard.sweepSeconds
    busCapacity := <- Json.defaulted? pace "bus_capacity" standard.busCapacity
    filter := <- Json.defaulted? logging "filter" standard.filter
    classes := <- Json.listedBy? members "notification_class" (ClassEntry.ofTree? dialect)
    points := <- Json.listedBy? members "point" (PointEntry.ofTree? dialect)
    peers := <- Json.listedBy? members "peer" (PeerEntry.ofTree? dialect) }

end Configuration

end Annunciator
