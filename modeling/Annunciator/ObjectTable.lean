import Annunciator.PointTable

/-!
# The object table

The tables of points that report events, one for each object type, in ascending
order of types. Of several tables of one type the first one reports; commands go
to the last one. A station set up from a configuration has one table per type.
-/

namespace Annunciator

/-- Keep the first of every run of tables that share a type with each other. The
run of the `previous` type has its first table already. -/
def dropRepeats (previous : Option ObjectType) : List PointTable -> List PointTable
  | [] => []
  | table :: rest =>
      if some table.objectType = previous then dropRepeats previous rest
      else table :: dropRepeats (some table.objectType) rest

/-- The reporting tables in ascending order of types. -/
structure ObjectTable where
  reporters : List PointTable
  deriving DecidableEq

namespace ObjectTable

/-- Put tables in order by type and keep the first one of each type. -/
def ofTables (tables : List PointTable) : ObjectTable :=
  ⟨dropRepeats none
    (tables.mergeSort fun left right => left.objectType.rank ≤ right.objectType.rank)⟩

/-- The reporting table of a type. -/
def find? (table : ObjectTable) (objectType : ObjectType) : Option PointTable :=
  table.reporters.find? (·.objectType = objectType)

/-- The object types that report, in order. -/
def types (table : ObjectTable) : List ObjectType := table.reporters.map (·.objectType)

/-- The active events in ascending order of objects. -/
def eventSummaries (table : ObjectTable) (registry : ClassRegistry) : List EventSummary :=
  table.reporters.flatMap (·.eventSummaries registry)

/-- The active alarms in ascending order of objects. -/
def alarmSummaries (table : ObjectTable) : List AlarmSummary :=
  table.reporters.flatMap (·.alarmSummaries)

/-- A page of at most `max` active events behind the last object that was received;
a `max` of zero sets no limit. -/
def eventInformation (table : ObjectTable) (registry : ClassRegistry)
    (last : Option ObjectId) (max : Nat) : EventInformation :=
  let following := (table.eventSummaries registry).filter fun summary =>
    last.all (· < summary.object)
  if max = 0 then ⟨following, false⟩
  else ⟨following.take max, max < following.length⟩

end ObjectTable

/-! ## Tables that share a list -/

/-- Change the first member of a list that has a property. -/
def modifyFirst {α : Type} (property : α -> Bool) (change : α -> α) : List α -> List α
  | [] => []
  | member :: rest =>
      if property member then change member :: rest
      else member :: modifyFirst property change rest

/-- Change the last member of a list that has a property. -/
def modifyLast {α : Type} (property : α -> Bool) (change : α -> α) (members : List α) :
    List α :=
  (modifyFirst property change members.reverse).reverse

/-- Change the first table of every type; the types already `seen` are left alone. -/
def modifyReporters (change : PointTable -> PointTable) (seen : List ObjectType) :
    List PointTable -> List PointTable
  | [] => []
  | table :: rest =>
      if seen.contains table.objectType then table :: modifyReporters change seen rest
      else change table :: modifyReporters change (table.objectType :: seen) rest

end Annunciator
