import Annunciator.Proofs.Station.Delivery

/-!
# What recipients are told

A monitor asks the classes which transitions have to be acknowledged while it evaluates its
signals. The notification of the transition is made later, from a second look at the classes
and from a kind that is worked out again from the state. What it says is still what the station
keeps about the object after the tick, and what it answers when it is asked.
-/

namespace Annunciator

/-! ## Single points -/

section Recorded

variable {before after : Point} {ackRequired : TransitionSet} {now : Timestamp}
  {record : EventRecord}

/-- What a record says of a transition is what its point keeps. -/
structure Point.KeepsTransition (point : Point) (ackRequired : TransitionSet)
    (record : EventRecord) (kind : Transition) : Prop where
  target : record.target = kind.target
  state : point.monitor.state = record.target
  value : record.value = point.presentValue
  statusFlags : record.statusFlags = point.statusFlags
  notificationClass : record.notificationClass = point.notificationClass
  acked : (point.monitor.acks.get kind).isAcked = !ackRequired.contains kind

/-- A record that does not look like an announcement is one of a transition. -/
theorem Point.Recorded.keepsTransition (made : before.Recorded ackRequired now record after)
    (noAck : record.isAckNotification = false) :
    ∃ kind, after.KeepsTransition ackRequired record kind := by
  cases made with
  | announced => cases noAck
  | @made kind =>
      refine ⟨kind, rfl, rfl, rfl, rfl, rfl, ?_⟩
      exact congrArg AckedTransition.isAcked (PerTransition.get_set_self _ kind _)

/-- What was left to announce is announced, and is acknowledged. -/
theorem Point.Recorded.announcesAcked (made : before.Recorded ackRequired now record after)
    (lived : before.Lived) {state : EventState} (pending : before.monitor.pendingAck = some state) :
    record.isAckNotification = true ∧ record.target = state ∧
      ∃ kind : Transition, state = kind.target ∧ (after.monitor.acks.get kind).isAcked = true := by
  cases made with
  | announced left =>
      cases pending.symm.trans left
      exact ⟨rfl, rfl, lived.announcesAcked state pending⟩
  | made idle =>
      rw [idle] at pending
      cases pending

end Recorded

/-- The summary of a point is about its object. -/
theorem Point.of_eventSummary? {point : Point} {priorities : PerTransition UInt8}
    {summary : EventSummary} (active : point.eventSummary? priorities = some summary) :
    summary.object = point.id ∧ summary.priorities = priorities := by
  rw [eventSummary?] at active
  split at active
  · cases active
    exact ⟨rfl, rfl⟩
  · cases active

/-! ## Notifications -/

/-- What a notification says of a transition is what a station keeps about it, and answers. -/
structure EventNotification.TellsOf (notification : EventNotification) (station : Station)
    (point : Point) (kind : Transition) : Prop where
  target : notification.target = kind.target
  state : point.monitor.state = notification.target
  newValue : notification.newValue = some point.presentValue
  statusFlags : notification.statusFlags = some point.statusFlags
  ackRequired : notification.ackRequired = true ↔ (point.monitor.acks.get kind).isAcked = false
  priority : notification.priority = (station.registry.priorities point.notificationClass).get kind
  /-- Every page of active events on which the object is says the same. -/
  answered : ∀ last max, ∀ summary ∈ (station.eventInformation last max).summaries,
    summary.object = notification.object -> summary.priorities.get kind = notification.priority

/-- A notification that asks for nothing and carries no value. -/
structure EventNotification.OnlyAnnounces (notification : EventNotification) : Prop where
  ackRequired : notification.ackRequired = false
  newValue : notification.newValue = none
  statusFlags : notification.statusFlags = none

namespace Station

/-- A page lists active events. -/
theorem mem_activeEvents_of_page {station : Station} {last : Option ObjectId} {max : Nat}
    {summary : EventSummary} (listed : summary ∈ (station.eventInformation last max).summaries) :
    summary ∈ station.activeEvents := by
  rw [eventInformation, ObjectTable.eventInformation] at listed
  split at listed
  · exact (List.mem_filter.mp listed).1
  · exact (List.mem_filter.mp (List.mem_of_mem_take listed)).1

/-- The priorities on a page are those of the class of the point. -/
theorem priorities_of_page {station : Station} (proper : station.IsProper)
    {last : Option ObjectId} {max : Nat} {summary : EventSummary}
    (listed : summary ∈ (station.eventInformation last max).summaries) {point : Point}
    (known : station.reportedPoint? summary.object = some point) :
    summary.priorities = station.registry.priorities point.notificationClass := by
  have active := mem_activeEvents_of_page listed
  rw [activeEvents_eq] at active
  obtain ⟨other, reports, told⟩ := List.mem_filterMap.mp active
  obtain ⟨about, priorities⟩ := Point.of_eventSummary? told
  have same := (reportedPoint?_eq_some_iff proper).mpr ⟨reports, about.symm⟩
  cases known.symm.trans same
  exact priorities

/-- What is sent for a record is made from its notification for its class. -/
theorem exists_group_of_sent {station : Station} {record : EventRecord}
    {transmission : Transmission} (sent : transmission ∈ station.transmissions record) :
    ∃ group kind destination address,
      station.registry.lookup? record.notificationClass = some group ∧
      record.transition? = some kind ∧
      transmission = Dispatch.transmissionTo (record.notification station.device group kind)
        destination address := by
  rw [transmissions, mem_transmissionsOf_iff, dispatched] at sent
  split at sent
  · cases sent
  · next group known =>
      obtain ⟨kind, destination, address, entered, same⟩ := Network.sent_report sent
      exact ⟨group, kind, destination, address, known, entered, same⟩

/-- What the recipients of a record are told, before and after the tick that made it. -/
structure ToldAsKept (before after : Station) (record : EventRecord) : Prop where
  transition : ∀ transmission ∈ before.transmissions record,
    transmission.notification.notifyType = .alarm ∨
        transmission.notification.notifyType = .event ->
      ∃ point kind, after.reportedPoint? transmission.notification.object = some point ∧
        transmission.notification.TellsOf after point kind
  announcement : ∀ point, before.reportedPoint? record.object = some point ->
    ∀ state, point.monitor.pendingAck = some state ->
      record.target = state ∧
      (∃ acked kind, after.reportedPoint? record.object = some acked ∧
        state = Transition.target kind ∧ (acked.monitor.acks.get kind).isAcked = true) ∧
      ∀ transmission ∈ before.transmissions record, transmission.notification.OnlyAnnounces

section Told

variable {station : Station} {group : NotificationClass} {record : EventRecord}

/-- The notification of a transition agrees with the point that made the record, if the classes
that the transition was made with are still there when it is sent. -/
theorem tellsOf_notification {after : Station} (proper : after.IsProper) {point : Point}
    (known : after.reportedPoint? record.object = some point)
    (lookedUp : after.registry.lookup? record.notificationClass = some group) {kind : Transition}
    (noAck : record.isAckNotification = false)
    (keeps : point.KeepsTransition (after.registry.ackRequired point.notificationClass) record kind)
    (destination : Destination) (address : NetworkAddress) :
    (Dispatch.transmissionTo (record.notification after.device group kind) destination
      address).notification.TellsOf after point kind := by
  rw [keeps.notificationClass] at lookedUp
  have required : after.registry.ackRequired point.notificationClass = group.ackRequired := by
    rw [ClassRegistry.ackRequired, lookedUp, Option.map_some, Option.getD_some]
  have priorities : after.registry.priorities point.notificationClass = group.priority := by
    rw [ClassRegistry.priorities, lookedUp, Option.map_some, Option.getD_some]
  exact {
    target := keeps.target
    state := keeps.state
    newValue := by
      simp [Dispatch.transmissionTo, EventRecord.notification, noAck, keeps.value]
    statusFlags := by
      simp [Dispatch.transmissionTo, EventRecord.notification, noAck, keeps.statusFlags]
    ackRequired := by
      simp [Dispatch.transmissionTo, EventRecord.notification, noAck, keeps.acked, required]
    priority := by rw [priorities]; rfl
    answered := fun last max summary listed about => by
      have present : after.reportedPoint? summary.object = some point := by
        rw [about]
        exact known
      rw [priorities_of_page proper listed present, priorities]
      rfl }

/-- An announcement asks for nothing, whatever class it is sent for. -/
theorem onlyAnnounces_notification (ack : record.isAckNotification = true)
    (device : DeviceInstance) (kind : Transition) (destination : Destination)
    (address : NetworkAddress) :
    (Dispatch.transmissionTo (record.notification device group kind) destination
      address).notification.OnlyAnnounces := by
  constructor <;> simp [Dispatch.transmissionTo, EventRecord.notification, ack]

/-- Looking at the classes before a tick is as good as looking at them after it. -/
theorem registry_tick (station : Station) :
    (perform .tick station).state.registry = station.registry ∧
      (perform .tick station).state.device = station.device := by
  obtain ⟨bus, ticks⟩ := station.run_tick_eq
  rw [ticks]
  exact ⟨rfl, rfl⟩

/-- In a reached station, the recipients of a record are told what the point behind it has kept
once the tick is over. -/
theorem Reached.toldAsKept (reached : station.Reached)
    (member : record ∈ station.tickReport.records) :
    ToldAsKept station (perform .tick station).state record := by
  obtain ⟨before, known, returned⟩ := exists_point_of_record reached.isProper member
  have lived := reached.lived.reportedPoint? known
  have made : (before.takeChanged.2).Recorded (station.registry.ackRequired before.notificationClass)
      station.clock record (before.report station.registry station.clock).after :=
    Point.recorded returned
  have kept := reportedPoint?_tick station record.object
  rw [known, Option.map_some] at kept
  -- The classes that a record is sent by are still those that its transition was made with.
  obtain ⟨sameClasses, sameDevice⟩ := registry_tick station
  constructor
  · intro transmission sent type
    obtain ⟨group, kind, destination, address, lookedUp, entered, rfl⟩ := exists_group_of_sent sent
    have noAck : record.isAckNotification = false := by
      rw [EventRecord.isAckNotification, decide_eq_false_iff_not]
      intro ack
      rcases type with alarm | event
      · exact absurd (ack.symm.trans alarm) (by decide)
      · exact absurd (ack.symm.trans event) (by decide)
    obtain ⟨made, keeps⟩ := made.keepsTransition noAck
    have sameKind : made = kind := by
      rw [EventRecord.transition?, keeps.target, Transition.entering?_target] at entered
      exact Option.some.inj entered
    subst sameKind
    have proper : (perform .tick station).state.IsProper :=
      (reached.underwent (.asked .tick)).isProper
    rw [← sameClasses] at lookedUp
    rw [← sameDevice]
    refine ⟨_, made, kept, tellsOf_notification proper kept lookedUp noAck ?_ destination address⟩
    rw [sameClasses]
    exact keeps
  · intro point present state pending
    cases known.symm.trans present
    obtain ⟨ack, target, kind, named, acked⟩ :=
      made.announcesAcked (lived.asked (.ladder .takeChanged)) pending
    refine ⟨target, ⟨_, kind, kept, named, acked⟩, fun transmission sent => ?_⟩
    obtain ⟨group, kind, destination, address, -, -, rfl⟩ := exists_group_of_sent sent
    exact onlyAnnounces_notification ack station.device kind destination address

end Told

/-- What recipients are told agrees with what the station keeps. Whatever state it got into, and
whatever time it is, a tick sends what its records call for. What it sends of a transition as an
alarm or an event says the state, the value, the need for an acknowledgment and the priority
that the object has after the tick. And what it announces is acknowledged after the tick, and
announced without a value. -/
theorem recipients_told_as_kept {station : Station} (reached : station.Reached) (now : Timestamp) :
    ∃ records, (perform .tick { station with clock := now }).answer = .records records ∧
      transmissionsOf (perform .tick { station with clock := now }).effects =
        records.flatMap (transmissions { station with clock := now }) ∧
      ∀ record ∈ records, ToldAsKept { station with clock := now }
        (perform .tick { station with clock := now }).state record := by
  have timed : Reached { station with clock := now } := reached.underwent (.asked (.setClock now))
  generalize { station with clock := now } = station at timed ⊢
  exact ⟨station.tickReport.records, station.answer_tick, station.transmissionsOf_tick,
    fun record => timed.toldAsKept⟩

/-- The console is told that the second fan waits for an acknowledgment, and so it does. -/
theorem ventilation_told_as_kept :
    ∃ station effects transmission point kind,
      start ventilation Timestamp.noon = .ok (station, effects) ∧
      transmission ∈ transmissions { station with clock := Timestamp.noon } secondAlarm ∧
      transmission.notification.ackRequired = true ∧
      transmission.notification.TellsOf
        (perform .tick { station with clock := Timestamp.noon }).state point kind := by
  obtain ⟨station, effects, started, ⟨point, known, made⟩, transmission, sent, alarm, required⟩ :
      ∃ station effects, start ventilation Timestamp.noon = .ok (station, effects) ∧
        (∃ point, (station.tables.find? (·.objectType = .binaryOutput)).bind (·.get? 2) =
            some point ∧
          (point.tick (station.registry.ackRequired point.notificationClass) Timestamp.noon).1 =
            some secondAlarm) ∧
        ∃ transmission ∈ transmissions { station with clock := Timestamp.noon } secondAlarm,
          transmission.notification.notifyType = .alarm ∧
          transmission.notification.ackRequired = true :=
    ⟨_, _, rfl, ⟨_, rfl, by decide +kernel⟩, by decide +kernel⟩
  have reached := reached_of_start started []
  obtain ⟨records, answers, -, told⟩ := recipients_told_as_kept reached Timestamp.noon
  cases answers.symm.trans (answer_tick _)
  have proper := (reached.underwent (.asked (.setClock Timestamp.noon))).isProper
  have reports := (reportedPoint?_eq_some_iff proper).mp
    ((reportedPoint?_eq_bind _ ⟨.binaryOutput, 2⟩).trans known)
  have second := told secondAlarm (mem_records_iff.mpr ⟨point, reports.1, made⟩)
  obtain ⟨after, kind, -, tells⟩ := second.transition transmission sent (.inl alarm)
  exact ⟨station, effects, transmission, after, kind, started, sent, required, tells⟩

end Station

end Annunciator
