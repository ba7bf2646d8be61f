import Annunciator.Station.Basic

/-!
# Commands

Commands to points. An accepted command drives the physical output unless the
point is out of service, and its outcome is saved. A refused one does nothing.
-/

namespace Annunciator.Station

/-- The point that takes commands for an object. -/
def point? (station : Station) (object : ObjectId) : Option Point :=
  (station.tables.reverse.find? (·.objectType = object.objectType)).bind
    (·.get? object.number)

/-- Replace the point that takes commands for an object. -/
def setPoint (station : Station) (object : ObjectId) (point : Point) : Station :=
  { station with
    tables := modifyLast (·.objectType = object.objectType) (·.set object.number point)
      station.tables }

/-! ## Names of settings -/

/-- The setting that holds the commanded values of an object. -/
def priorityArrayKey (object : ObjectId) : String := object.display ++ "/priority-array"

/-- The setting that holds the default value of an object. -/
def relinquishDefaultKey (object : ObjectId) : String :=
  object.display ++ "/relinquish-default"

/-- The setting that holds whether an object is out of service. -/
def outOfServiceKey (object : ObjectId) : String := object.display ++ "/out-of-service"

/-! ## Commands -/

/-- Give the ladder of an object a command: drive the output, save the commanded
values and answer with the value that results. -/
def command (object : ObjectId)
    (change : PriorityLadder -> Except ProtocolError (Command × PriorityLadder)) :
    Activity Station (Except ProtocolError PointValue) := do
  match (<- Activity.get).point? object with
  | none => pure (.error .unknownObject)
  | some point =>
      match point.command change with
      | .error error => pure (.error error)
      | .ok (command, after) =>
          Activity.modify (·.setPoint object after)
          if command.actuate then
            onOutput (OutputLog.apply object command.old command.new)
          onSettings (SettingsStore.persist (priorityArrayKey object) after.ladder.slots)
          pure (.ok command.new)

/-- Command a value at a priority, or give the priority up. -/
def write (object : ObjectId) (priority : UInt8) (value : WriteValue) :
    Activity Station (Except ProtocolError PointValue) :=
  command object (·.write priority value)

/-- Give a priority up. -/
def relinquish (object : ObjectId) (priority : UInt8) :
    Activity Station (Except ProtocolError PointValue) :=
  command object (·.relinquish priority)

/-- Replace the value that holds when no priority is in use, and save it. -/
def setRelinquishDefault (object : ObjectId) (value : PointValue) :
    Activity Station (Except ProtocolError PointValue) := do
  let result <- command object (·.setRelinquishDefault value)
  if result.toBool then
    onSettings (SettingsStore.persist (relinquishDefaultKey object) value)
  pure result

/-- Take an object in or out of service, and save which. -/
def setOutOfService (object : ObjectId) (value : Bool) :
    Activity Station (Except ProtocolError Unit) := do
  match (<- Activity.get).point? object with
  | none => pure (.error .unknownObject)
  | some point =>
      Activity.modify (·.setPoint object (point.setOutOfService value))
      onSettings (SettingsStore.persist (outOfServiceKey object) value)
      pure (.ok ())

/-- Report how far the input behind an object can be trusted. -/
def setReliability (object : ObjectId) (reliability : Reliability) :
    Activity Station (Except ProtocolError Unit) := do
  match (<- Activity.get).point? object with
  | none => pure (.error .unknownObject)
  | some point =>
      Activity.modify (·.setPoint object (point.setReliability reliability))
      pure (.ok ())

end Annunciator.Station
