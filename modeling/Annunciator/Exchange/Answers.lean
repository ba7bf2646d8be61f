import Annunciator.Configuration.Loading
import Annunciator.Station.Operation

/-!
# Answers as data trees

How answers, refusals and effects are told to whoever asked. A refusal always has
a member that says what kind of refusal it is and another one with its wording.
-/

namespace Annunciator

/-! ## Refusals -/

/-- A refusal with its reason, its category and its wording. -/
def ProtocolError.toTree (error : ProtocolError) : Json :=
  .object [("error", toJson error.code), ("class", toJson error.category),
    ("message", .text error.message)]

namespace ValidationError

/-- The kind of a failed set-up. -/
def name : ValidationError -> String
  | emptyName => "EmptyName"
  | noStates => "NoStates"
  | stateOutOfRange .. => "StateOutOfRange"
  | valueKindMismatch => "ValueKindMismatch"
  | wrongObjectType .. => "WrongObjectType"
  | duplicateObject .. => "DuplicateObject"

/-- A failed set-up with its kind and its wording. -/
def toTree (error : ValidationError) : Json :=
  .object [("error", .text error.name), ("message", .text error.message)]

/-- A refused description, with what is wrong with it. -/
def toDescriptionTree (error : ValidationError) : Json :=
  .object [("error", .text "Validation"), ("message", .text "validation error"),
    ("source", error.toTree)]

end ValidationError

/-- A turned-down acknowledgment with its cause. -/
def AckError.toTree (error : AckError) : Json :=
  let cause := match error with
    | rejected cause => [("error", .text "Rejected"), ("source", cause.toTree)]
    | unsupportedState state =>
        [("error", .text "UnsupportedState"), ("state", toJson state)]
  .object (("message", .text error.message) :: cause)

/-- The kind of a load error. -/
def LoadError.name : LoadError -> String
  | unreadable => "Io"
  | malformed => "Parse"
  | invalid _ => "Validation"

/-- A load error with its kind and its wording. -/
def LoadError.toTree (error : LoadError) : Json :=
  .object [("error", .text error.name), ("message", .text error.message)]

/-! ## Answers to operations -/

/-- What became of an acknowledgment. -/
def AckOutcome.toTree (outcome : AckOutcome) : Json := .text outcome.name

/-- What a command did. -/
def Command.toTree (command : Command) : Json :=
  .object [("old", toJson command.old), ("new", toJson command.new),
    ("actuate", toJson command.actuate)]

/-- What a new recipient list asks of the address bindings. -/
def RecipientUpdate.toTree (update : RecipientUpdate) : Json :=
  .object [("bind", toJson update.bind), ("released", toJson update.released)]

/-- The answer of a ladder. -/
def PriorityLadder.Answer.toTree : PriorityLadder.Answer -> Json
  | command outcome => outcome.toTree
  | refused error => error.toTree
  | changed flag => toJson flag
  | done => .null

/-- What a tick of a monitor brought about. -/
def MonitorEvent.toTree : MonitorEvent -> Json
  | transition origin target => .object [("from", toJson origin), ("to", toJson target)]
  | acknowledged state => .object [("acked", toJson state)]

/-- The answer of a monitor. -/
def Monitor.Answer.toTree : Monitor.Answer -> Json
  | event outcome => (outcome.map (·.toTree)).getD .null
  | acked outcome => outcome.toTree
  | notAcked error => error.toTree
  | done => .null

/-- The answer of a point. -/
def Point.Answer.toTree : Point.Answer -> Json
  | ladder answer => answer.toTree
  | reliability level => toJson level
  | record outcome => toJson outcome
  | acked outcome => outcome.toTree
  | notAcked error => error.toTree
  | done => .null

/-- The answer of a station. -/
def Station.Answer.toTree : Station.Answer -> Json
  | value result => toJson result
  | recipients update => update.toTree
  | acked outcome => outcome.toTree
  | records list => toJson list
  | missing count => .int count
  | done => .null
  | refused error => error.toTree
  | notAcked error => error.toTree

/-- The answer about a place in a list. -/
def Slot.toTree {α : Type} [JsonForm α] : Slot α -> Json
  | active summary => .object [("active", toJson summary)]
  | inactive => .text "inactive"
  | endOfList => .text "end"

/-- What a listener gets from the event bus. -/
def Received.toTree : Received -> Json
  | event content => toJson content
  | empty => .text "empty"
  | lagged lost => .object [("lagged", .int lost)]

/-- Something that was sent. -/
def Transmission.toTree (transmission : Transmission) : Json :=
  .object [("address", toJson transmission.address),
    ("confirmed", toJson transmission.confirmed),
    ("notification", toJson transmission.notification)]

/-! ## Effects -/

/-- An act of a station on the world around it. -/
def Effect.toTree : Effect -> Json
  | bind device found => .object
      [("bind", toJson device), ("found", toJson (found.map (·.display)))]
  | discover device => .object [("discover", toJson device)]
  | discoverAt address => .object [("discover_at", .text address.display)]
  | release device => .object [("release", toJson device)]
  | send transmission failure => .object
      [("send", .text transmission.address.display),
        ("confirmed", toJson transmission.confirmed),
        ("notification", toJson transmission.notification),
        ("result", .text ((failure.map (·.message)).getD "ok"))]
  | apply object old new => .object
      [("apply", .text object.display), ("old", .text old.display), ("new", .text new.display)]
  | save key value failure => .object
      [("save", .text key), ("value", value), ("ok", toJson failure.isNone)]
  | publish event => .object [("publish", toJson event)]

end Annunciator
