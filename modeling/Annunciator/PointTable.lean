import Annunciator.ClassRegistry
import Annunciator.Point.Basic

/-!
# Point tables

The points of one object type by their numbers. An evaluation tick goes through
them in ascending order, so what they report comes out in the order of objects.
-/

namespace Annunciator

/-- What a tick of one point produced, and the point after it. -/
structure PointReport where
  /-- The change of value or service noticed since the previous tick. -/
  change : Option BusEvent
  record : Option EventRecord
  after : Point

/-- Report a change of value or service, then evaluate the point. The change is
reported with the flags as they were before the evaluation. -/
def Point.report (point : Point) (registry : ClassRegistry) (now : Timestamp) : PointReport :=
  let (changed, noticed) := point.takeChanged
  let (record, after) := noticed.tick (registry.ackRequired noticed.notificationClass) now
  { change :=
      if changed then
        some ⟨noticed.id, .valueChanged noticed.presentValue noticed.statusFlags, now⟩
      else none
    record
    after }

/-- What a tick of several points produced, each in the order of objects. -/
structure TickReport where
  changes : List BusEvent
  records : List EventRecord
  deriving DecidableEq, Repr

/-- The points of one object type. -/
structure PointTable where
  objectType : ObjectType
  points : SortedMap UInt32 Point
  deriving DecidableEq

namespace PointTable

/-- The table without points. -/
def empty (objectType : ObjectType) : PointTable := ⟨objectType, ∅⟩

/-- Add a point. Points of another type and numbers that are taken are refused. -/
def insert (table : PointTable) (point : Point) : Except ValidationError PointTable :=
  if point.id.objectType ≠ table.objectType then
    .error (.wrongObjectType point.id table.objectType)
  else if table.points.contains point.id.number then
    .error (.duplicateObject point.id)
  else
    .ok { table with points := table.points.insert point.id.number point }

/-- The point with a number. -/
def get? (table : PointTable) (number : UInt32) : Option Point := table.points.get? number

/-- Replace the point with a number. -/
def set (table : PointTable) (number : UInt32) (point : Point) : PointTable :=
  { table with points := table.points.modify number fun _ => point }

/-- The number of points. -/
def size (table : PointTable) : Nat := table.points.size

/-- The object at a place, counted in ascending order. -/
def objectAt? (table : PointTable) (index : Nat) : Option ObjectId :=
  table.points.keys[index]?.map fun number => ⟨table.objectType, number⟩

/-- Evaluate every point once. -/
def tick (table : PointTable) (registry : ClassRegistry) (now : Timestamp) :
    TickReport × PointTable :=
  let reports := table.points.values.map fun point => point.report registry now
  ({ changes := reports.filterMap (·.change), records := reports.filterMap (·.record) },
    { table with
      points := table.points.mapValues fun _ point => (point.report registry now).after })

/-! ## Queries -/

/-- The points that are among the active events. -/
def eventSummaries (table : PointTable) (registry : ClassRegistry) : List EventSummary :=
  table.points.values.filterMap fun point =>
    point.eventSummary? (registry.priorities point.notificationClass)

/-- The points that are among the active alarms. -/
def alarmSummaries (table : PointTable) : List AlarmSummary :=
  table.points.values.filterMap (·.alarmSummary?)

/-- Answer about the point at a place, counted in ascending order. -/
def slotAt {α : Type} (table : PointTable) (index : Nat) (summary : Point -> Option α) :
    Slot α :=
  match table.points.values[index]? with
  | none => .endOfList
  | some point =>
      match summary point with
      | none => .inactive
      | some summary => .active summary

/-- Whether the point at a place is among the active events. -/
def eventInformation (table : PointTable) (index : Nat) (registry : ClassRegistry) :
    Slot EventSummary :=
  table.slotAt index fun point =>
    point.eventSummary? (registry.priorities point.notificationClass)

/-- Whether the point at a place is among the active alarms. -/
def alarmSummary (table : PointTable) (index : Nat) : Slot AlarmSummary :=
  table.slotAt index (·.alarmSummary?)

/-- Acknowledge a transition of the point with a number. -/
def acknowledge (table : PointTable) (number : UInt32) (request : AckRequest) :
    Except AckError (AckOutcome × PointTable) :=
  match table.get? number with
  | none => .error (.rejected .unknownObject)
  | some point => do
      let (outcome, after) <- point.acknowledge request
      pure (outcome, table.set number after)

end PointTable

end Annunciator
