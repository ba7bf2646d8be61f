import Annunciator.Point.Description
import Annunciator.PointTable
import Annunciator.Proofs.Ladder.Changes
import Annunciator.Proofs.Monitor.History

/-!
# Points and their parts

A point is put together from a new ladder and a new monitor. From then on a command is a matter
of the ladder, an acknowledgment is one of the monitor, and a tick looks at the classes for
nothing but the acknowledgments that they require.
-/

namespace Annunciator

/-- An accepted description is that of a new ladder and a new monitor. -/
theorem PointDescription.exists_ladder_of_build {description : PointDescription} {point : Point}
    (built : description.build = .ok point) :
    ∃ ladder, PriorityLadder.create description.defaultValue description.states = .ok ladder ∧
      point = {
        id := description.id
        name := description.name.getD ""
        notificationClass := description.notificationClass
        ladder
        alarm := description.alarmCondition
        reliability := .noFaultDetected
        monitor := .create description.reporting } := by
  rw [build] at built
  dsimp only at built
  split at built
  · cases built
  · obtain ⟨_, -, rest⟩ := bind_eq_ok_iff.mp built
    obtain ⟨ladder, created, same⟩ := bind_eq_ok_iff.mp rest
    cases same
    exact ⟨ladder, created, rfl⟩

/-- A new point has nothing to tell yet, and is in service. -/
theorem PointDescription.of_build {description : PointDescription} {point : Point}
    (built : description.build = .ok point) :
    point.ladder.Settled ∧ point.ladder.changed = false ∧ point.ladder.outOfService = false := by
  obtain ⟨ladder, created, rfl⟩ := exists_ladder_of_build built
  exact PriorityLadder.Settled.create created

namespace Point

/-- An acknowledgment is passed to the monitor. -/
theorem state_perform_acknowledge (point : Point) (request : AckRequest) :
    (point.perform (.acknowledge request)).2 =
      { point with
        monitor :=
          (point.monitor.perform (.acknowledge request.state request.timestamp)).2 } := by
  simp only [perform, acknowledge, Monitor.perform]
  cases point.monitor.acknowledge request.state request.timestamp <;> rfl

/-- What is asked of a point reaches its monitor as one operation, or not at all. -/
theorem monitor_perform (point : Point) (operation : Operation) :
    (point.perform operation).2.monitor = point.monitor ∨
      ∃ asked, (point.perform operation).2.monitor = (point.monitor.perform asked).2 := by
  cases operation with
  | ladder | setReliability | setNotificationClass => exact .inl rfl
  | tick ackRequired now => exact .inr ⟨.tick _ ackRequired now, rfl⟩
  | acknowledge request =>
      refine .inr ⟨.acknowledge request.state request.timestamp, ?_⟩
      rw [state_perform_acknowledge]
  | setTimeDelay ticks => exact .inr ⟨.setTimeDelay ticks, rfl⟩
  | setEventEnable kinds => exact .inr ⟨.setEventEnable kinds, rfl⟩
  | setNotifyType type => exact .inr ⟨.setNotifyType type, rfl⟩

/-- Whatever is asked of a point, it stays the same object. -/
theorem id_perform (point : Point) (operation : Operation) :
    (point.perform operation).2.id = point.id := by
  cases operation with
  | acknowledge request => rw [state_perform_acknowledge]
  | ladder | setReliability | setNotificationClass | tick | setTimeDelay | setEventEnable
  | setNotifyType => rfl

/-- Everything that the record of a tick can be, with the point that the tick leaves: the
announcement that was left, or a transition of some kind. -/
inductive Recorded (point : Point) (ackRequired : TransitionSet) (now : Timestamp) :
    EventRecord -> Point -> Prop where
  | announced {state : EventState} (pending : point.monitor.pendingAck = some state) :
      Recorded point ackRequired now
        (recordOf { point with monitor.pendingAck := none } now (.acknowledged state))
        { point with monitor.pendingAck := none }
  | made {kind : Transition} (idle : point.monitor.pendingAck = none) :
      Recorded point ackRequired now
        (recordOf { point with monitor := (point.monitor.fire kind ackRequired now).2 } now
          (.transition point.monitor.state kind.target))
        { point with monitor := (point.monitor.fire kind ackRequired now).2 }

/-- A tick makes no other records. -/
theorem recorded {point : Point} {ackRequired : TransitionSet} {now : Timestamp}
    {record : EventRecord} (returned : (point.tick ackRequired now).1 = some record) :
    point.Recorded ackRequired now record (point.tick ackRequired now).2 := by
  have done := point.monitor.ticked
    (point.alarm.evaluate point.presentValue point.reliability) ackRequired now
  rw [tick] at returned ⊢
  generalize point.monitor.tick
    (point.alarm.evaluate point.presentValue point.reliability) ackRequired now = result
    at done returned ⊢
  cases done with
  | announced pending =>
      cases returned
      exact .announced pending
  | failed idle | recovered idle | elapsed idle =>
      cases returned
      exact .made idle
  | counted | reloaded | rested => cases returned

/-- A record is about the object of the point that made it. -/
theorem object_tick {point : Point} {ackRequired : TransitionSet} {now : Timestamp}
    {record : EventRecord} (returned : (point.tick ackRequired now).1 = some record) :
    record.object = point.id := by
  have made := recorded returned
  generalize (point.tick ackRequired now).2 = after at made
  cases made <;> rfl

/-- A report depends on the classes only by the acknowledgments that are required. -/
theorem report_congr {point : Point} {registry other : ClassRegistry}
    (sameAcks : registry.ackRequired point.notificationClass =
      other.ackRequired point.notificationClass) (now : Timestamp) :
    point.report registry now = point.report other now := by
  have noticed : point.takeChanged.2.notificationClass = point.notificationClass := rfl
  simp only [report, noticed, sameAcks]

end Point

end Annunciator
