import Annunciator.Configuration.Basic

/-!
# Valid configurations

A configuration can be readable and still describe a station that cannot run. Of
several flaws the first one in a fixed order is named: the device, the times and
the capacity, then the classes and then the points, each in their order.
-/

namespace Annunciator

/-- What is wrong with a configuration. -/
inductive ConfigurationFlaw where
  | unassignedDevice
  | noTickPeriod
  | noSweepPeriod
  | noBusCapacity
  | classRepeated (number : UInt32)
  | tooManyRecipients (number : UInt32)
  | pointRepeated (object : ObjectId)
  deriving DecidableEq, Repr

/-- The wording of a flaw. -/
def ConfigurationFlaw.message : ConfigurationFlaw -> String
  | unassignedDevice =>
      "device instance must be within 1..=" ++ toString largestInstance.toNat
  | noTickPeriod => "tick_ms must be non-zero"
  | noSweepPeriod => "sweep_secs must be non-zero"
  | noBusCapacity => "bus_capacity must be non-zero"
  | classRepeated number =>
      "notification class " ++ toString number.toNat ++ " is defined twice"
  | tooManyRecipients number =>
      "notification class " ++ toString number.toNat ++ " lists more than "
        ++ toString recipientCapacity ++ " recipients"
  | pointRepeated object => "point " ++ object.display ++ " is defined twice"

namespace Configuration

/-- The first flaw of the classes, where some numbers are taken. -/
def classFlaw? (taken : List UInt32) : List ClassEntry -> Option ConfigurationFlaw
  | [] => none
  | entry :: rest =>
      if entry.number ∈ taken then some (.classRepeated entry.number)
      else if recipientCapacity < entry.recipients.length then
        some (.tooManyRecipients entry.number)
      else classFlaw? (entry.number :: taken) rest

/-- The first flaw of the points, where some objects are taken. -/
def pointFlaw? (taken : List ObjectId) : List PointEntry -> Option ConfigurationFlaw
  | [] => none
  | entry :: rest =>
      if entry.object ∈ taken then some (.pointRepeated entry.object)
      else pointFlaw? (entry.object :: taken) rest

/-- The first flaw of a configuration. -/
def flaw? (configuration : Configuration) : Option ConfigurationFlaw :=
  if !configuration.device.isAssigned then some .unassignedDevice
  else if configuration.tickMilliseconds = 0 then some .noTickPeriod
  else if configuration.sweepSeconds = 0 then some .noSweepPeriod
  else if configuration.busCapacity = 0 then some .noBusCapacity
  else (classFlaw? [] configuration.classes).or (pointFlaw? [] configuration.points)

end Configuration

end Annunciator
