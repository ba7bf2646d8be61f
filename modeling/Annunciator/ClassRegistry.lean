import Annunciator.NotificationClass

/-!
# The class registry

All notification classes of a station by their numbers. An object that names a
class that is not there has events of default priority, nothing to acknowledge
and nobody to tell.
-/

namespace Annunciator

/-- The notification classes of a station. -/
structure ClassRegistry where
  classes : SortedMap UInt32 NotificationClass
  deriving DecidableEq

namespace ClassRegistry

/-- The registry without classes. -/
def empty : ClassRegistry := ⟨∅⟩

/-- Add a class, or replace the one that had its number. -/
def insert (registry : ClassRegistry) (group : NotificationClass) : ClassRegistry :=
  ⟨registry.classes.insert group.number group⟩

/-- The class with a number. -/
def lookup? (registry : ClassRegistry) (number : UInt32) : Option NotificationClass :=
  registry.classes.get? number

/-- Which transitions an object of a class has to have acknowledged. -/
def ackRequired (registry : ClassRegistry) (number : UInt32) : TransitionSet :=
  ((registry.lookup? number).map (·.ackRequired)).getD .none

/-- The priorities of the events of a class. -/
def priorities (registry : ClassRegistry) (number : UInt32) : PerTransition UInt8 :=
  ((registry.lookup? number).map (·.priority)).getD (.replicate defaultPriority)

/-- The numbers of all classes in ascending order. -/
def numbers (registry : ClassRegistry) : List UInt32 := registry.classes.keys

/-- The devices that some class sends events to, in ascending order. -/
def deviceRecipients (registry : ClassRegistry) : List DeviceInstance :=
  SortedMap.distinct
    ((registry.classes.values.flatMap (·.recipients)).filterMap (·.recipient.device?))

/-- Whether a class of another number sends events to a device. -/
def referencedBeside (registry : ClassRegistry) (number : UInt32)
    (device : DeviceInstance) : Bool :=
  registry.classes.values.any fun other => other.number ≠ number && other.references device

/-- Replace the recipient list of a class. A device that another class still sends
events to is not released. -/
def replaceRecipients (registry : ClassRegistry) (number : UInt32)
    (entries : List Destination) : Except ProtocolError (RecipientUpdate × ClassRegistry) :=
  match registry.lookup? number with
  | none => .error .unknownObject
  | some group => do
      let (update, group) <- group.setRecipients entries
      let registry : ClassRegistry := ⟨registry.classes.modify number fun _ => group⟩
      let released := update.released.filter fun device =>
        !registry.referencedBeside number device
      pure ({ update with released }, registry)

end ClassRegistry

end Annunciator
