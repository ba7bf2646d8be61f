import Annunciator.Surroundings.Network

/-!
# Dispatch

A record of an event becomes one notification for every destination of its class
that wants to hear of it. A destination whose device has no known address is left
out this time, and one that cannot be reached does not keep the others from being
told.
-/

namespace Annunciator

namespace EventRecord

/-- The notification made from a record, still without the process it is for. The
announcement of an acknowledgment asks for none and carries no value. -/
def notification (record : EventRecord) (device : DeviceInstance)
    (group : NotificationClass) (kind : Transition) : EventNotification where
  processId := 0
  initiatingDevice := device
  object := record.object
  timestamp := record.timestamp
  notificationClass := group.number
  priority := group.priority.get kind
  eventType := record.eventType
  message := record.message
  notifyType := record.notifyType
  ackRequired := !record.isAckNotification && group.ackRequired.contains kind
  origin := record.origin
  target := record.target
  newValue := if record.isAckNotification then none else some record.value
  statusFlags := if record.isAckNotification then none else some record.statusFlags

end EventRecord

namespace Dispatch

/-- The address of a recipient, looked up for a device. -/
def resolve : Recipient -> Activity Network (Option NetworkAddress)
  | .device device => Network.bind device
  | .address address => pure (some address)

/-- What goes to a destination at an address. Nothing sent to everybody asks to be
confirmed. -/
def transmissionTo (notification : EventNotification) (destination : Destination)
    (address : NetworkAddress) : Transmission where
  address
  confirmed := destination.confirmed && !address.isBroadcast
  notification := { notification with processId := destination.processId }

/-- Send a notification to one destination. Answers whether it was sent. -/
def deliver (notification : EventNotification) (destination : Destination) :
    Activity Network Bool := do
  match <- resolve destination.recipient with
  | none => pure false
  | some address =>
      let failure <- Network.send (transmissionTo notification destination address)
      pure failure.isNone

/-- Send a record to every destination of a class that wants to hear of it. Answers
how many notifications were sent. -/
def report (device : DeviceInstance) (record : EventRecord) (group : NotificationClass) :
    Activity Network Nat :=
  match record.transition? with
  | none => pure 0
  | some kind => do
      let admitted := group.recipients.filter (·.admits kind record.timestamp)
      let sent <- admitted.mapM (deliver (record.notification device group kind))
      pure (sent.count true)

end Dispatch

end Annunciator
