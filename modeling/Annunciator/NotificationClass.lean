import Annunciator.Failure
import Annunciator.Recipient

/-!
# Notification classes

A notification class says for a group of objects how urgent their events are,
which of them have to be acknowledged, and who is told. Its recipients stand in a
list of slots. A slot that could not be filled is empty, and the first empty slot
ends the list for everyone behind it.
-/

namespace Annunciator

/-- The most recipients a class can have. -/
def recipientCapacity : Nat := 10

/-- The priority of events without a class. -/
def defaultPriority : UInt8 := 255

/-- What a new recipient list asks of the address bindings. -/
structure RecipientUpdate where
  /-- The valid recipients in list order, to be bound or discovered. -/
  bind : List Recipient
  /-- The devices that are no longer listed. -/
  released : List DeviceInstance
  deriving DecidableEq, Repr

/-- How the events of a group of objects are handled. -/
structure NotificationClass where
  number : UInt32
  priority : PerTransition UInt8
  ackRequired : TransitionSet
  slots : List (Option Destination)
  deriving DecidableEq, Repr

/-- The destinations in front of the first empty slot. -/
def reachable : List (Option Destination) -> List Destination
  | some destination :: rest => destination :: reachable rest
  | none :: _ | [] => []

/-- The destinations of all filled slots. -/
def filled (slots : List (Option Destination)) : List Destination :=
  slots.filterMap id

/-- A slot for a destination; it stays empty when the recipient cannot exist. -/
def slotFor (destination : Destination) : Option Destination :=
  if destination.recipient.isValid then some destination else none

namespace NotificationClass

/-- A class with nobody to tell, nothing to acknowledge and the least urgency. -/
def create (number : UInt32) : NotificationClass :=
  ⟨number, .replicate defaultPriority, .none, []⟩

/-- The destinations that events are sent to, in list order. -/
def recipients (group : NotificationClass) : List Destination := reachable group.slots

/-- Whether a device is among the recipients that events are sent to. -/
def references (group : NotificationClass) (device : DeviceInstance) : Bool :=
  group.recipients.any fun destination => destination.recipient = .device device

/-- Replace the recipient list. Entries that cannot exist leave empty slots. The
update names every valid recipient, behind an empty slot or not, and every device
that had a slot and is not named any more. -/
def setRecipients (group : NotificationClass) (entries : List Destination) :
    Except ProtocolError (RecipientUpdate × NotificationClass) :=
  if recipientCapacity < entries.length then
    .error .noSpaceToWriteProperty
  else
    let previous := (filled group.slots).filterMap (·.recipient.device?)
    let slots := entries.map slotFor
    let bind := (filled slots).map (·.recipient)
    let dropped := previous.filter fun device => !bind.contains (.device device)
    .ok (⟨bind, SortedMap.distinct dropped⟩, { group with slots })

instance : JsonForm NotificationClass where
  toJson group := .object
    [("instance", toJson group.number),
      ("priority", toJson group.priority),
      ("ack_required", toJson group.ackRequired),
      ("recipients", toJson group.slots)]
  ofJson? value := do
    let members <- value.members?
    some {
      number := <- Json.required? members "instance"
      priority := <- Json.required? members "priority"
      ackRequired := <- Json.required? members "ack_required"
      slots := <- Json.required? members "recipients" }

end NotificationClass

end Annunciator
