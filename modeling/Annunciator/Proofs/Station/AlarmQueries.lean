import Annunciator.Proofs.PageSearch
import Annunciator.Proofs.Station.Lives
import Annunciator.Proofs.Station.Paging

/-!
# Alarms among the active events

A station answers two questions about what is going on: which events are active, and which
alarms are. Each answer is gathered by a search of its own through the places of the tables,
and each has its own test for a point. The alarms are nevertheless those active events that
are alarms, in the same order and with the same state and acknowledgments.
-/

namespace Annunciator

/-! ## Alarms and events of one point -/

namespace EventSummary

/-- Whether an active event is an alarm: not normal, and reported as an alarm. -/
def isAlarm (summary : EventSummary) : Bool :=
  summary.state ≠ .normal && summary.notifyType = .alarm

/-- What is told of an active event when it is told as an alarm. -/
def toAlarm (summary : EventSummary) : AlarmSummary :=
  ⟨summary.object, summary.state, summary.acked⟩

end EventSummary

/-- The alarms among some active events. -/
def alarmsAmong (summaries : List EventSummary) : List AlarmSummary :=
  (summaries.filter (·.isAlarm)).map (·.toAlarm)

/-- The alarm of a point is its active event, if that is an alarm. A point without an active
event is normal, so it has no alarm either. -/
theorem Point.alarmSummary?_eq (point : Point) (priorities : PerTransition UInt8) :
    point.alarmSummary? =
      ((point.eventSummary? priorities).filter (·.isAlarm)).map (·.toAlarm) := by
  by_cases active : point.monitor.hasActiveEvent = true
  · have listed : point.eventSummary? priorities = some _ := if_pos active
    rw [listed, Option.filter_some, alarmSummary?]
    change _ = Option.map _ (if point.monitor.hasActiveAlarm = true then _ else _)
    split <;> rfl
  · have absent : point.eventSummary? priorities = none := if_neg active
    have normal : point.monitor.state = .normal := by
      by_contra notNormal
      exact active (point.monitor.hasActiveEvent_iff.mpr (.inl notNormal))
    rw [absent, alarmSummary?, Monitor.hasActiveAlarm, normal]
    rfl

/-! ## The search for alarms -/

namespace PointTable

/-- Go through a table from a place on, until its end, and keep the alarms. -/
def scanAlarms (table : PointTable) (index : Nat) : List AlarmSummary :=
  match _slot : table.alarmSummary index with
  | .endOfList => []
  | .inactive => scanAlarms table (index + 1)
  | .active summary => summary :: scanAlarms table (index + 1)
termination_by table.points.values.length - index
decreasing_by
  all_goals
    have inside : index < table.points.values.length :=
      lt_length_of_slotAt _slot (by simp)
    omega

/-- The search finds the alarms of all points from a place on. -/
theorem scanAlarms_eq (table : PointTable) (index : Nat) :
    table.scanAlarms index = (table.points.values.drop index).filterMap (·.alarmSummary?) := by
  fun_induction scanAlarms table index with
  | case1 index slot => rw [table.filterMap_drop, ← alarmSummary, slot]
  | case2 index slot inductionHypothesis =>
      rw [table.filterMap_drop, ← alarmSummary, slot, inductionHypothesis]
  | case3 index summary slot inductionHypothesis =>
      rw [table.filterMap_drop, ← alarmSummary, slot, inductionHypothesis]

/-- The alarms of a table are those among its active events, whatever the priorities. -/
theorem alarmSummaries_eq (table : PointTable) (registry : ClassRegistry) :
    table.alarmSummaries = alarmsAmong (table.eventSummaries registry) := by
  rw [alarmsAmong, eventSummaries, List.filter_filterMap, List.map_filterMap]
  exact List.filterMap_congr fun point _ => point.alarmSummary?_eq _

end PointTable

namespace Station

/-! ## The two queries -/

section Queries

variable (station : Station)

/-- A page without a limit and without a last object brings all active events. -/
theorem eventInformation_all : (station.eventInformation none 0).summaries = station.activeEvents :=
  List.filter_eq_self.mpr fun _ _ => rfl

/-- The alarms of a station are those among its active events. -/
theorem alarmSummaries_activeEvents :
    station.alarmSummaries = alarmsAmong station.activeEvents := by
  rw [alarmsAmong, activeEvents, ObjectTable.eventSummaries, List.filter_flatMap,
    List.map_flatMap]
  exact List.flatMap_congr fun table _ => table.alarmSummaries_eq station.registry

/-- The alarms come in the order in which the search finds them. -/
theorem alarmSummaries_scanned :
    station.alarmSummaries = station.objectTable.reporters.flatMap (·.scanAlarms 0) :=
  List.flatMap_congr fun table _ => (table.scanAlarms_eq 0).symm

/-- An alarm keeps the object of its event. -/
theorem objects_alarmsAmong_sublist (summaries : List EventSummary) :
    ((alarmsAmong summaries).map (·.object)).Sublist (summaries.map (·.object)) := by
  rw [alarmsAmong, List.map_map]
  exact List.filter_sublist.map _

end Queries

/-- The two answers of a station agree. -/
structure QueriesAgree (station : Station) : Prop where
  /-- The alarms are the active events that are alarms, in the same order. -/
  alarms : station.alarmSummaries =
    alarmsAmong (station.eventInformation none 0).summaries
  eventsAscending : (station.eventInformation none 0).summaries.Pairwise
    fun left right => left.object < right.object
  alarmsAscending : station.alarmSummaries.Pairwise
    fun left right => left.object < right.object
  /-- Every object of the tables has a point that answers for it, and no active event if and
  only if this point is normal with all of its transitions acknowledged. -/
  missing : ∀ object ∈ station.objects, ∃ point, station.reportedPoint? object = some point ∧
    (object ∉ (station.eventInformation none 0).summaries.map (·.object) ↔
      point.monitor.state = .normal ∧ ∀ kind, (point.monitor.acks.get kind).isAcked = true)
  /-- Each answer is what its search through the places of the tables finds. -/
  eventsScanned : station.eventInformation none 0 =
    searchAll station.registry none 0 [] station.objectTable.reporters
  alarmsScanned : station.alarmSummaries =
    station.objectTable.reporters.flatMap (·.scanAlarms 0)

section Proper

variable {station : Station} (proper : station.IsProper)
include proper

/-- An object has no active event if and only if its point has nothing to report. -/
theorem not_mem_activeEvents_iff {object : ObjectId} {point : Point}
    (known : station.reportedPoint? object = some point) :
    object ∉ station.activeEvents.map (·.object) ↔
      point.monitor.state = .normal ∧ ∀ kind, (point.monitor.acks.get kind).isAcked = true := by
  rw [mem_activeEvents_iff proper, IsActive, known]
  simp

/-- Where every point is in its place, both queries agree. -/
theorem queriesAgree_of_isProper : station.QueriesAgree where
  alarms := by rw [eventInformation_all, alarmSummaries_activeEvents]
  eventsAscending := by
    rw [eventInformation_all]
    exact activeEvents_ascending proper
  alarmsAscending := by
    have ascending := activeEvents_ascending proper
    rw [← List.pairwise_map] at ascending ⊢
    rw [alarmSummaries_activeEvents]
    exact ascending.sublist (objects_alarmsAmong_sublist _)
  missing object member := by
    obtain ⟨point, known⟩ := exists_reportedPoint proper member
    refine ⟨point, known, ?_⟩
    rw [eventInformation_all]
    exact not_mem_activeEvents_iff proper known
  eventsScanned := (searchAll_reporters station.registry none 0 station.objectTable).symm
  alarmsScanned := station.alarmSummaries_scanned

end Proper

/-- Whatever happens to a station whose tables were filled point by point, its answers about
alarms and about active events agree. -/
theorem alarms_agree_with_events {station : Station}
    (filled : ∀ table ∈ station.tables, table.Filled) (happenings : List Happening) :
    (station.through happenings).QueriesAgree := by
  refine queriesAgree_of_isProper ?_
  rw [IsProper, layout_through]
  exact isProper_of_filled filled

/-- A table with one output, which is normal. -/
def quietOutput : PointTable where
  objectType := .binaryOutput
  points := (∅ : SortedMap _ _).insert 3 (signal ⟨.binaryOutput, 3⟩ .normal)

/-- A station with two outputs, of which the second one is in alarm. -/
def signalPair : Station :=
  { bare ⟨9⟩ Timestamp.noon ⟨8, none⟩ with
    tables := [{ quietOutput with
      points := quietOutput.points.insert 4 (signal ⟨.binaryOutput, 4⟩ .offnormal) }] }

/-- Both outputs are switched on, and neither is evaluated yet. -/
def switchedOn : List Happening :=
  [.asked (.write ⟨.binaryOutput, 3⟩ 8 (.value (.binary .active))),
    .asked (.write ⟨.binaryOutput, 4⟩ 8 (.value (.binary .active)))]

/-- The second output stays the only alarm, and nothing is reported about the first one. -/
theorem signalPair_answers :
    (∀ table ∈ signalPair.tables, table.Filled) ∧
      (signalPair.through switchedOn).alarmSummaries =
        [⟨⟨.binaryOutput, 4⟩, .offnormal, .all⟩] ∧
      ⟨.binaryOutput, 3⟩ ∉
        ((signalPair.through switchedOn).eventInformation none 0).summaries.map (·.object) := by
  have filled : ∀ table ∈ signalPair.tables, table.Filled := by
    intro table member
    cases List.mem_singleton.mp member
    have first : (PointTable.empty .binaryOutput).insert
        (signal ⟨.binaryOutput, 3⟩ .normal) = .ok quietOutput := rfl
    have second : quietOutput.insert (signal ⟨.binaryOutput, 4⟩ .offnormal) = .ok _ := rfl
    exact .insert (.insert (.empty .binaryOutput) first) second
  have agree := alarms_agree_with_events filled switchedOn
  have reporters := ObjectTable.reporters_eq (signalPair.through switchedOn).tables
  refine ⟨filled, ?_, ?_⟩
  · rw [agree.alarms, eventInformation, objectTable, ObjectTable.eventInformation,
      ObjectTable.eventSummaries, reporters]
    decide
  · have there : ⟨.binaryOutput, 3⟩ ∈ (signalPair.through switchedOn).objects := by
      rw [objects, objectTable, reporters]
      decide
    obtain ⟨point, known, missing⟩ := agree.missing _ there
    rw [reportedPoint?, objectTable, ObjectTable.find?_ofTables] at known
    cases known
    refine missing.mpr ⟨rfl, fun kind => ?_⟩
    cases kind <;> rfl

end Station

end Annunciator
