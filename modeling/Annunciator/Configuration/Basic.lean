import Annunciator.NotificationClass
import Annunciator.Point.Description

/-!
# Configurations

What a station is set up from: its identity and pace, its notification classes with
their recipients, its points with their first commands, and the peers on its
network. Everything has a value to fall back on, so the empty configuration sets up
a station without points.
-/

namespace Annunciator

/-- A notification class of a configuration. -/
structure ClassEntry where
  number : UInt32
  priority : PerTransition UInt8
  ackRequired : TransitionSet
  recipients : List Destination
  deriving DecidableEq, Repr

/-- The class without its recipients. They are listed once the station stands, so
that their addresses are looked up. -/
def ClassEntry.group (entry : ClassEntry) : NotificationClass :=
  { NotificationClass.create entry.number with
    priority := entry.priority
    ackRequired := entry.ackRequired }

/-- A command that a point is given when the station starts. -/
structure CommandEntry where
  priority : UInt8
  value : PointValue
  deriving DecidableEq, Repr

/-- A point of a configuration. -/
structure PointEntry where
  objectType : ObjectType
  number : UInt32
  name : String
  notificationClass : UInt32
  relinquishDefault : Option PointValue
  numberOfStates : Option UInt32
  /-- The value that alarms of a binary point are about. -/
  alarmValue : Option BinaryValue
  /-- The states that alarms of a multi-state point are about. -/
  alarmValues : List UInt32
  /-- The states that faults of a multi-state point are about. -/
  faultValues : List UInt32
  reporting : Reporting
  commands : List CommandEntry
  deriving DecidableEq, Repr

namespace PointEntry

/-- The object that the entry is about. -/
def object (entry : PointEntry) : ObjectId := ⟨entry.objectType, entry.number⟩

/-- The alarm condition. Only what fits the type of the object is used. -/
def alarm (entry : PointEntry) : AlarmCondition :=
  if entry.objectType.isBinary then .binary (entry.alarmValue.getD .active)
  else .multiState entry.alarmValues entry.faultValues

/-- The entry as the description of a point. -/
def description (entry : PointEntry) : PointDescription where
  id := entry.object
  name := some entry.name
  notificationClass := entry.notificationClass
  relinquishDefault := entry.relinquishDefault
  numberOfStates := entry.numberOfStates
  alarm := some entry.alarm
  reporting := entry.reporting

/-- Set up the point of the entry. -/
def build (entry : PointEntry) : Except ValidationError Point := entry.description.build

end PointEntry

/-- A device that answers when it is asked where it is. -/
structure PeerEntry where
  device : DeviceInstance
  address : NetworkAddress
  deriving DecidableEq, Repr

/-- What a station is set up from. -/
structure Configuration where
  device : DeviceInstance
  name : String
  /-- The time between two evaluations. -/
  tickMilliseconds : UInt64
  /-- The time between two searches for missing addresses. -/
  sweepSeconds : UInt64
  busCapacity : UInt64
  /-- What is to be logged. -/
  filter : String
  classes : List ClassEntry
  points : List PointEntry
  peers : List PeerEntry
  deriving DecidableEq, Repr

/-- The configuration that says nothing. -/
def Configuration.standard : Configuration where
  device := ⟨260001⟩
  name := "minibac"
  tickMilliseconds := 1000
  sweepSeconds := 60
  busCapacity := 256
  filter := "minibacd=info,minibac_app=info,minibac_adapter_virtual=info"
  classes := []
  points := []
  peers := []

end Annunciator
