import Annunciator.Proofs.Dispatch
import Annunciator.Proofs.Station.Locality
import Annunciator.Proofs.Station.Publications
import Annunciator.Proofs.Station.Reached

/-!
# What a tick delivers

A tick goes through the tables and collects what their points report. What it answers,
publishes and sends is spread out from that collection in three different ways, but each of
them is in the order of objects, and no record is lost or told twice.
-/

namespace Annunciator

/-- A record has the time of its tick, and the kind of a transition. -/
theorem Point.stamped_tick {point : Point} (lived : point.Lived) {ackRequired : TransitionSet}
    {now : Timestamp} {record : EventRecord}
    (returned : (point.tick ackRequired now).1 = some record) :
    record.timestamp = now ∧ ∃ kind, record.transition? = some kind := by
  have made := recorded returned
  generalize (point.tick ackRequired now).2 = after at made
  cases made with
  | announced pending =>
      obtain ⟨kind, rfl, -⟩ := lived.announcesAcked _ pending
      exact ⟨rfl, kind, Transition.entering?_target kind⟩
  | @made kind => exact ⟨rfl, kind, Transition.entering?_target kind⟩

namespace Station

/-! ## Single records -/

/-- What is done to tell the recipients of its class about a record. -/
def dispatched (station : Station) (record : EventRecord) : List Effect :=
  match station.registry.lookup? record.notificationClass with
  | none => []
  | some group => (Dispatch.report station.device record group station.network).effects

/-- The transmissions that get through to the recipients of a record. -/
def transmissions (station : Station) (record : EventRecord) : List Transmission :=
  transmissionsOf (station.dispatched record)

/-- The station after some more was sent. -/
def sending (station : Station) (sent : List Transmission) : Station :=
  { station with network.sent := station.network.sent ++ sent }

@[simp] theorem sending_nil (station : Station) : station.sending [] = station := by
  rw [sending, List.append_nil]

/-- What is sent in two goes could as well be sent at once. -/
theorem sending_sending (station : Station) (earlier later : List Transmission) :
    (station.sending earlier).sending later = station.sending (earlier ++ later) := by
  simp only [sending, List.append_assoc]

/-- What was sent before does not matter to what is done for a record. -/
theorem dispatched_sending (station : Station) (sent : List Transmission) (record : EventRecord) :
    (station.sending sent).dispatched record = station.dispatched record := by
  rw [dispatched, dispatched]
  dsimp only [sending]
  split
  · rfl
  · exact (Network.transmits_report _ record _).effects_eq station.network _

/-- A record is published, and its recipients are told. -/
theorem run_announce (record : EventRecord) (station : Station) :
    announce record station =
      ⟨(), { station with bus := station.bus.deliver (.ofRecord record) }.sending
          (station.transmissions record),
        .publish (.ofRecord record) :: station.dispatched record⟩ := by
  have published : publish (.ofRecord record) station =
      ⟨(), { station with bus := station.bus.deliver (.ofRecord record) },
        [.publish (.ofRecord record)]⟩ := rfl
  rw [announce, Activity.run_bind, published, Activity.run_bind, Activity.run_get, transmissions,
    dispatched]
  cases known : station.registry.lookup? record.notificationClass with
  | none => simp
  | some group =>
      have sent := (Network.transmits_report station.device record group).state_eq station.network
      simp [onNetwork, Activity.within, sending, sent]

/-! ## All records -/

/-- Records are announced one after the other, each of them as if it were the only one. -/
theorem run_announceAll (records : List EventRecord) (station : Station) :
    ∃ bus, records.forM announce station =
      ⟨(), { station with bus }.sending (records.flatMap station.transmissions),
        records.flatMap fun record =>
          .publish (.ofRecord record) :: station.dispatched record⟩ := by
  induction records generalizing station with
  | nil => exact ⟨station.bus, by simp⟩
  | cons record rest inductionHypothesis =>
      obtain ⟨bus, later⟩ := inductionHypothesis
        ({ station with bus := station.bus.deliver (.ofRecord record) }.sending
          (station.transmissions record))
      have same : dispatched ({ station with bus := station.bus.deliver (.ofRecord record) }.sending
          (station.transmissions record)) = station.dispatched :=
        funext fun other => dispatched_sending _ _ other
      have sameSent : transmissions ({ station with
          bus := station.bus.deliver (.ofRecord record) }.sending
          (station.transmissions record)) = station.transmissions :=
        funext fun other => congrArg transmissionsOf (congrFun same other)
      rw [same, sameSent] at later
      refine ⟨bus, ?_⟩
      rw [Activity.run_forM_cons, run_announce, later, List.flatMap_cons, ← sending_sending]
      rfl

/-- A tick publishes the changes, and then publishes and sends the records in turn. -/
theorem run_tick_eq (station : Station) :
    ∃ bus, perform .tick station =
      ⟨.records station.tickReport.records,
        { station.evaluate with bus }.sending
          (station.tickReport.records.flatMap station.transmissions),
        station.tickReport.changes.map .publish ++
          station.tickReport.records.flatMap fun record =>
            .publish (.ofRecord record) :: station.dispatched record⟩ := by
  obtain ⟨bus, ticks⟩ := station.run_tick
  obtain ⟨last, announces⟩ :=
    run_announceAll station.tickReport.records { station.evaluate with bus }
  refine ⟨last, ?_⟩
  rw [ticks, announces]
  rfl

/-- A tick answers with the records that it reports. -/
theorem answer_tick (station : Station) :
    (perform .tick station).answer = .records station.tickReport.records := by
  obtain ⟨bus, ticks⟩ := station.run_tick_eq
  rw [ticks]

/-- A tick sends what its records call for, one record after the other. -/
theorem transmissionsOf_tick (station : Station) :
    transmissionsOf (perform .tick station).effects =
      station.tickReport.records.flatMap station.transmissions := by
  obtain ⟨bus, ticks⟩ := station.run_tick_eq
  have changes : transmissionsOf (station.tickReport.changes.map .publish) = [] :=
    List.filterMap_eq_nil_iff.mpr fun effect member => by
      obtain ⟨event, -, rfl⟩ := List.mem_map.mp member
      rfl
  rw [ticks, transmissionsOf_append, changes, List.nil_append, transmissionsOf,
    List.filterMap_flatMap]
  rfl

/-- Everything that a tick makes known, in its order. -/
structure DeliversOnce (station : Station) (records : List EventRecord)
    (changes : List BusEvent) (outcome : Outcome Station Answer) : Prop where
  answer : outcome.answer = .records records
  recordsAscending : records.Pairwise fun left right => left.object < right.object
  /-- The records are those that the points make on the tick, and no others. -/
  ofPoints : ∀ object, records.filter (·.object = object) =
    ((station.reportedPoint? object).bind fun point =>
      (point.tick (station.registry.ackRequired point.notificationClass) station.clock).1).toList
  stamped : ∀ record ∈ records,
    record.timestamp = station.clock ∧ ∃ kind, record.transition? = some kind
  changesAscending : changes.Pairwise fun left right => left.object < right.object
  /-- The changes are those that the points noticed, and no others. -/
  changesOfPoints : ∀ object, changes.filter (·.object = object) =
    ((station.reportedPoint? object).bind fun point =>
      (point.report station.registry station.clock).change).toList
  changesOfValue : ∀ event ∈ changes, ∃ value flags, event.occurrence = .valueChanged value flags
  published : eventsOf outcome.effects = changes ++ records.map .ofRecord
  /-- Each record is sent right after it is published. -/
  effects : outcome.effects = changes.map .publish ++ records.flatMap fun record =>
    .publish (.ofRecord record) :: station.dispatched record
  sent : outcome.state.network =
    { station.network with
      sent := station.network.sent ++ records.flatMap station.transmissions }

/-- The records of a tick are those that the points make. -/
theorem mem_records_iff {station : Station} {record : EventRecord} :
    record ∈ station.tickReport.records ↔ ∃ point ∈ station.points,
      (point.tick (station.registry.ackRequired point.notificationClass) station.clock).1 =
        some record := by
  rw [tickReport_eq]
  exact List.mem_filterMap

/-- A record of a tick was made by the point of its object. -/
theorem exists_point_of_record {station : Station} (proper : station.IsProper)
    {record : EventRecord} (member : record ∈ station.tickReport.records) :
    ∃ point, station.reportedPoint? record.object = some point ∧
      (point.tick (station.registry.ackRequired point.notificationClass) station.clock).1 =
        some record := by
  obtain ⟨point, reports, returned⟩ := mem_records_iff.mp member
  have own := (Point.object_tick returned).symm
  exact ⟨point, (reportedPoint?_eq_some_iff proper).mpr ⟨reports, own⟩, returned⟩

/-- A change of a tick is one of a value. -/
theorem exists_value_of_change {station : Station} {event : BusEvent}
    (member : event ∈ station.tickReport.changes) :
    ∃ value flags, event.occurrence = .valueChanged value flags := by
  rw [tickReport_eq] at member
  obtain ⟨point, -, told⟩ := List.mem_filterMap.mp member
  rw [change_report] at told
  split at told
  · cases told
    exact ⟨_, _, rfl⟩
  · cases told

/-- Whatever state a station got into, and whatever time it is, a tick delivers everything once
and in order: what it answers, publishes and sends are the records and the changes that the
points of the station have for this time. -/
theorem tick_delivers_once {station : Station} (reached : station.Reached) (now : Timestamp) :
    ∃ records changes, DeliversOnce { station with clock := now } records changes
      (perform .tick { station with clock := now }) := by
  have timed : Reached { station with clock := now } := reached.underwent (.asked (.setClock now))
  generalize { station with clock := now } = station at timed ⊢
  obtain ⟨bus, ticks⟩ := station.run_tick_eq
  refine ⟨station.tickReport.records, station.tickReport.changes, ?_⟩
  have published := station.eventsOf_tick
  rw [ticks] at published ⊢
  exact {
    answer := rfl
    recordsAscending := records_ascending timed.isProper
    ofPoints := records_of_object timed.isProper
    stamped := fun record member => by
      obtain ⟨point, known, returned⟩ := exists_point_of_record timed.isProper member
      exact Point.stamped_tick (timed.lived.reportedPoint? known) returned
    changesAscending := changes_ascending timed.isProper
    changesOfPoints := changes_of_object timed.isProper
    changesOfValue := fun _ => exists_value_of_change
    published
    effects := rfl
    sent := rfl }

/-- Two running fans of a class that a console is told about, and has to acknowledge. -/
def ventilation : Configuration :=
  { Configuration.standard with
    classes := [⟨1, .replicate 1, .all, [.always (.device ⟨10⟩)]⟩]
    peers := [⟨⟨10⟩, ⟨0, [10]⟩⟩]
    points := [fanEntry 1 [⟨8, .binary .active⟩], fanEntry 2 [⟨8, .binary .active⟩]] }

/-- The record of the second fan when it is evaluated for the first time. -/
def secondAlarm : EventRecord where
  object := ⟨.binaryOutput, 2⟩
  notificationClass := 1
  timestamp := Timestamp.noon
  origin := .normal
  target := .offnormal
  notifyType := .alarm
  eventType := .changeOfState
  message := "normal to offnormal"
  value := .binary .active
  statusFlags := { inAlarm := true, fault := false, overridden := false, outOfService := false }

/-- There is one record of the second fan, and the console gets it. -/
theorem ventilation_delivers_once :
    ∃ station effects records changes,
      start ventilation Timestamp.noon = .ok (station, effects) ∧
      DeliversOnce { station with clock := Timestamp.noon } records changes
        (perform .tick { station with clock := Timestamp.noon }) ∧
      records.filter (·.object = ⟨.binaryOutput, 2⟩) = [secondAlarm] ∧
      (station.transmissions secondAlarm).map (·.address) = [⟨0, [10]⟩] := by
  have started : start ventilation Timestamp.noon = .ok _ := rfl
  obtain ⟨records, changes, delivers⟩ :=
    tick_delivers_once (reached_of_start started []) Timestamp.noon
  have second := delivers.ofPoints ⟨.binaryOutput, 2⟩
  rw [reportedPoint?_eq_bind] at second
  exact ⟨_, _, records, changes, rfl, delivers, second.trans (by decide +kernel),
    by decide +kernel⟩

end Station

end Annunciator
