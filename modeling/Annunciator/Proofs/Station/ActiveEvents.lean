import Annunciator.Proofs.Station.Layout
import Mathlib.Data.List.Flatten

/-!
# The active events of a station

The active events are found by going through the reporting tables. In a station
whose tables were filled point by point this lists every active object once, in
strictly ascending order of objects, also across the borders between tables.
-/

namespace Annunciator

/-- An active event is a state other than normal, or a transition of some kind that
nobody acknowledged yet. -/
theorem Monitor.hasActiveEvent_iff (monitor : Monitor) :
    monitor.hasActiveEvent = true ↔
      monitor.state ≠ .normal ∨ ∃ kind, (monitor.acks.get kind).isAcked = false := by
  have everyKind : ∀ kind : Transition, kind ∈ Transition.all := by
    intro kind
    cases kind <;> decide
  simp [hasActiveEvent, AckTracker.allAcked, everyKind]

/-- The active objects of a table are those of its active points. -/
theorem PointTable.objects_eventSummaries (table : PointTable) (registry : ClassRegistry) :
    (table.eventSummaries registry).map (·.object) =
      (table.points.values.filter (·.monitor.hasActiveEvent)).map (·.id) := by
  rw [PointTable.eventSummaries]
  induction table.points.values with
  | nil => rfl
  | cons point rest inductionHypothesis =>
      by_cases active : point.monitor.hasActiveEvent = true
      · have listed : point.eventSummary? (registry.priorities point.notificationClass) =
            some _ := if_pos active
        simp only [List.filterMap_cons, listed]
        rw [List.filter_cons_of_pos (by exact active), List.map_cons, List.map_cons,
          inductionHypothesis]
      · have absent : point.eventSummary? (registry.priorities point.notificationClass) =
            none := if_neg active
        simp only [List.filterMap_cons, absent]
        rw [List.filter_cons_of_neg (by exact active), inductionHypothesis]

namespace Station

/-! ## The objects that can report -/

/-- The objects of the reporting tables in the order in which they are gone through. -/
def objects (station : Station) : List ObjectId :=
  station.objectTable.reporters.flatMap (·.layout.objects)

/-- Which objects can report follows from the layout. -/
theorem objects_eq (station : Station) :
    station.objects =
      (ObjectType.all.filterMap fun objectType =>
        station.layout.find? (·.objectType = objectType)).flatMap (·.objects) := by
  have reporters : station.objectTable.reporters.map (·.layout) =
      ObjectType.all.filterMap fun objectType =>
        station.layout.find? (·.objectType = objectType) := by
    rw [objectTable, ObjectTable.reporters_eq, List.map_filterMap]
    congr 1
    funext objectType
    rw [layout, List.find?_map]
    rfl
  rw [← reporters, List.flatMap_map]
  rfl

/-- Every point is in a table of its type and under its own number. -/
def IsProper (station : Station) : Prop := ∀ layout ∈ station.layout, layout.IsProper

/-- Where every table was filled point by point, every point is in its place. -/
theorem isProper_of_filled {station : Station}
    (filled : ∀ table ∈ station.tables, table.Filled) : station.IsProper := by
  intro layout member
  obtain ⟨table, listed, rfl⟩ := List.mem_map.mp member
  exact PointTable.isProper_of_filled (filled table listed)

/-- The points stay in their places over every run. -/
theorem isProper_run {station : Station} (proper : station.IsProper)
    (operations : List Operation) : (run operations station).state.IsProper := by
  rw [IsProper, stays_run operations station]
  exact proper

/-- The same objects can report after every run. -/
theorem objects_run (station : Station) (operations : List Operation) :
    (run operations station).state.objects = station.objects := by
  rw [objects_eq, stays_run operations station, ← objects_eq]

section Proper

variable {station : Station} (proper : station.IsProper)
include proper

/-- The reporting tables are among the tables of the station, and as proper as these. -/
theorem isProper_reporter {table : PointTable}
    (member : table ∈ station.objectTable.reporters) : table.layout.IsProper := by
  have first := ObjectTable.mem_reporters_iff.mp member
  exact proper _ (List.mem_map_of_mem (List.mem_of_find?_eq_some first))

/-- The objects that can report come in strictly ascending order: by type from one
table to the next, and by number within a table. -/
theorem objects_ascending : station.objects.Pairwise (· < ·) := by
  refine List.pairwise_flatMap.mpr ⟨fun table member => ?_, ?_⟩
  · exact (PointTable.objects_ascending (isProper_reporter proper member)).2
  · refine (ObjectTable.reporters_ascending station.tables).imp_of_mem ?_
    intro first second firstMember secondMember below left leftMember right rightMember
    have leftType :=
      (PointTable.objects_ascending (isProper_reporter proper firstMember)).1 left leftMember
    have rightType :=
      (PointTable.objects_ascending (isProper_reporter proper secondMember)).1 right rightMember
    rw [← leftType, ← rightType] at below
    exact ObjectId.lt_of_objectType below

end Proper

/-! ## The points that report -/

/-- The points that report, in the order of objects. -/
def points (station : Station) : List Point :=
  station.objectTable.reporters.flatMap (·.points.values)

/-- The points that report belong to the objects that can report, in the same order. -/
theorem ids_points (station : Station) : station.points.map (·.id) = station.objects := by
  rw [points, objects, List.map_flatMap]
  simp only [PointTable.layout_objects]

/-- The point that answers for an object. -/
def reportedPoint? (station : Station) (object : ObjectId) : Option Point :=
  (station.objectTable.find? object.objectType).bind (·.get? object.number)

/-- The point is in the first table of its type. -/
theorem reportedPoint?_eq_bind (station : Station) (object : ObjectId) :
    station.reportedPoint? object =
      (station.tables.find? (·.objectType = object.objectType)).bind (·.get? object.number) := by
  rw [reportedPoint?, objectTable, ObjectTable.find?_ofTables]

/-- What is in a reporting table answers for its type and number. -/
theorem reportedPoint?_of_mem {station : Station} {table : PointTable} {number : UInt32}
    {point : Point} (reports : table ∈ station.objectTable.reporters)
    (entry : (number, point) ∈ table.points.entries) :
    station.reportedPoint? ⟨table.objectType, number⟩ = some point := by
  have found : station.objectTable.find? table.objectType = some table :=
    ObjectTable.find?_eq_some_iff.mpr ⟨reports, rfl⟩
  rw [reportedPoint?]
  exact Option.bind_eq_some_iff.mpr
    ⟨table, found, (SortedMap.get?_eq_some_iff _ _ _).mpr entry⟩

/-- A point reports for its object if and only if it is among the points that report. -/
theorem reportedPoint?_eq_some_iff {station : Station} (proper : station.IsProper)
    {object : ObjectId} {point : Point} :
    station.reportedPoint? object = some point ↔ point ∈ station.points ∧ point.id = object := by
  constructor
  · intro known
    obtain ⟨table, found, there⟩ := Option.bind_eq_some_iff.mp known
    obtain ⟨reports, sameType⟩ := ObjectTable.find?_eq_some_iff.mp found
    have entry := (SortedMap.get?_eq_some_iff _ _ _).mp there
    have placed : point.id = ⟨table.objectType, object.number⟩ :=
      isProper_reporter proper reports _ (List.mem_map_of_mem entry)
    refine ⟨List.mem_flatMap.mpr ⟨table, reports, List.mem_map_of_mem entry⟩, ?_⟩
    rw [placed, sameType]
  · rintro ⟨listed, rfl⟩
    obtain ⟨table, reports, member⟩ := List.mem_flatMap.mp listed
    obtain ⟨⟨number, same⟩, entry, rfl⟩ := List.mem_map.mp member
    have placed : same.id = ⟨table.objectType, number⟩ :=
      isProper_reporter proper reports _ (List.mem_map_of_mem entry)
    rw [placed]
    exact reportedPoint?_of_mem reports entry

/-- The points that report come in strictly ascending order of objects. -/
theorem points_ascending {station : Station} (proper : station.IsProper) :
    station.points.Pairwise fun left right => left.id < right.id := by
  rw [← List.pairwise_map (f := Point.id), ids_points]
  exact objects_ascending proper

/-- Some point answers for every object that can report. -/
theorem exists_reportedPoint {station : Station} (proper : station.IsProper) {object : ObjectId}
    (member : object ∈ station.objects) :
    ∃ point, station.reportedPoint? object = some point := by
  rw [← ids_points] at member
  obtain ⟨point, listed, same⟩ := List.mem_map.mp member
  exact ⟨point, (reportedPoint?_eq_some_iff proper).mpr ⟨listed, same⟩⟩

/-! ## The active points -/

/-- An object is active while it is not normal or a transition of it is not acknowledged. -/
def IsActive (station : Station) (object : ObjectId) : Prop :=
  ∃ point ∈ station.reportedPoint? object,
    point.monitor.state ≠ .normal ∨ ∃ kind, (point.monitor.acks.get kind).isAcked = false

/-- The summaries of all active events. -/
def activeEvents (station : Station) : List EventSummary :=
  station.objectTable.eventSummaries station.registry

/-- The active events are told point by point. -/
theorem activeEvents_eq (station : Station) :
    station.activeEvents = station.points.filterMap fun point =>
      point.eventSummary? (station.registry.priorities point.notificationClass) := by
  rw [activeEvents, ObjectTable.eventSummaries, points, List.filterMap_flatMap]
  rfl

/-- The objects of the active events are those of the active points. -/
theorem objects_activeEvents (station : Station) :
    station.activeEvents.map (·.object) =
      (station.points.filter (·.monitor.hasActiveEvent)).map (·.id) := by
  rw [activeEvents, ObjectTable.eventSummaries, points, List.map_flatMap, List.filter_flatMap,
    List.map_flatMap]
  congr 1
  funext table
  exact table.objects_eventSummaries station.registry

/-- The active events keep the order of the objects that can report. -/
theorem activeEvents_sublist (station : Station) :
    (station.activeEvents.map (·.object)).Sublist station.objects := by
  rw [objects_activeEvents, ← ids_points]
  exact List.filter_sublist.map _

section Proper

variable {station : Station} (proper : station.IsProper)
include proper

/-- The active events come in strictly ascending order of objects. -/
theorem activeEvents_ascending :
    station.activeEvents.Pairwise fun left right => left.object < right.object := by
  rw [← List.pairwise_map]
  exact (objects_ascending proper).sublist station.activeEvents_sublist

/-- The active events are the events of exactly the active objects. -/
theorem mem_activeEvents_iff (object : ObjectId) :
    object ∈ station.activeEvents.map (·.object) ↔ station.IsActive object := by
  rw [objects_activeEvents]
  simp only [List.mem_map, List.mem_filter, Monitor.hasActiveEvent_iff]
  constructor
  · rintro ⟨point, ⟨listed, active⟩, same⟩
    exact ⟨point, (reportedPoint?_eq_some_iff proper).mpr ⟨listed, same⟩, active⟩
  · rintro ⟨point, known, active⟩
    obtain ⟨listed, same⟩ := (reportedPoint?_eq_some_iff proper).mp known
    exact ⟨point, ⟨listed, active⟩, same⟩

end Proper

end Station

end Annunciator
