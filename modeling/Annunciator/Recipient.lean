import Annunciator.Calendar.Written
import Annunciator.EventState
import Annunciator.Identity
import Annunciator.Text.Hex

/-!
# Recipients

Who is told about events, where, and when: a recipient is a device, whose address
is looked up when it is needed, or an address. A destination adds the days, the
hours and the kinds of transitions that the recipient wants to hear of.
-/

namespace Annunciator

/-- The network number that means all networks. -/
def broadcastNetwork : UInt16 := 0xFFFF

/-- The most bytes a station address can have. -/
def longestMac : Nat := 7

/-- An address: a network and a station on it. Network 0 is the local one. -/
structure NetworkAddress where
  network : UInt16
  mac : List UInt8
  deriving DecidableEq, Repr

namespace NetworkAddress

/-- Whether the address means every station on every network. -/
def isBroadcast (address : NetworkAddress) : Bool := address.network = broadcastNetwork

/-- Whether the address can be sent to: the broadcast, or a station of one to
seven bytes. -/
def isValid (address : NetworkAddress) : Bool :=
  address.isBroadcast || (1 ≤ address.mac.length && address.mac.length ≤ longestMac)

/-- The written form of an address, such as `7:0aff`; the broadcast has a name. -/
def display (address : NetworkAddress) : String :=
  if address.isBroadcast then "broadcast"
  else toString address.network.toNat ++ ":"
    ++ String.ofList (address.mac.flatMap Text.hexByte)

instance : JsonForm NetworkAddress where
  toJson address := .object [("network", toJson address.network), ("mac", toJson address.mac)]
  ofJson? value := do
    let members <- value.members?
    some ⟨<- Json.required? members "network", <- Json.defaulted? members "mac" []⟩

end NetworkAddress

/-- Who is to be told: a device or an address. -/
inductive Recipient where
  | device (device : DeviceInstance)
  | address (address : NetworkAddress)
  deriving DecidableEq, Repr

namespace Recipient

/-- Whether the device or the address can exist. -/
def isValid : Recipient -> Bool
  | .device target => target.isAssigned
  | .address target => target.isValid

/-- The device of a recipient that is one. -/
def device? : Recipient -> Option DeviceInstance
  | .device target => some target
  | .address _ => none

/-- The written form of a recipient. -/
def display : Recipient -> String
  | .device target => target.display
  | .address target => target.display

instance : JsonForm Recipient where
  toJson
    | .device target => .object [("device", toJson target)]
    | .address target => .object [("address", toJson target)]
  ofJson?
    | .object [("device", value)] => (ofJson? value).map .device
    | .object [("address", value)] => (ofJson? value).map .address
    | _ => none

end Recipient

/-- A recipient with what it wants to hear of, and when. -/
structure Destination where
  validDays : DaysOfWeek
  fromTime : TimeOfDay
  toTime : TimeOfDay
  recipient : Recipient
  processId : UInt32
  confirmed : Bool
  transitions : TransitionSet
  deriving DecidableEq, Repr

namespace Destination

/-- Everything, every day, all day, without confirmation. -/
def always (recipient : Recipient) : Destination where
  validDays := .all
  fromTime := .midnight
  toTime := .lastSecond
  recipient
  processId := 0
  confirmed := false
  transitions := .all

/-- Whether a transition of this kind is to be told at this moment. The moment's
time of day enters with its sub-second part cleared. -/
def admits (destination : Destination) (kind : Transition) (now : Timestamp) : Bool :=
  destination.transitions.contains kind
    && destination.validDays.contains now.weekday
    && now.time.toWholeSecond.within destination.fromTime destination.toTime

instance : JsonForm Destination where
  toJson destination := .object
    [("valid_days", toJson destination.validDays),
      ("from_time", toJson destination.fromTime),
      ("to_time", toJson destination.toTime),
      ("recipient", toJson destination.recipient),
      ("process_id", toJson destination.processId),
      ("confirmed", toJson destination.confirmed),
      ("transitions", toJson destination.transitions)]
  ofJson? value := do
    let members <- value.members?
    let recipient <- Json.required? members "recipient"
    let standard := always recipient
    some {
      validDays := <- Json.defaulted? members "valid_days" standard.validDays
      fromTime := <- Json.defaulted? members "from_time" standard.fromTime
      toTime := <- Json.defaulted? members "to_time" standard.toTime
      recipient
      processId := <- Json.defaulted? members "process_id" standard.processId
      confirmed := <- Json.defaulted? members "confirmed" standard.confirmed
      transitions := <- Json.defaulted? members "transitions" standard.transitions }

end Destination

end Annunciator
