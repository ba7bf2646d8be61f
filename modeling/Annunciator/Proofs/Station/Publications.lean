import Annunciator.Proofs.Station.Points

/-!
# What is published

Only ticks publish events. A tick publishes the changes of value first and then one event
for each record, in their order, whatever becomes of the notifications that it sends in
between.
-/

namespace Annunciator

open Activity (Obeys)

/-- The event that an effect publishes. -/
def Effect.event? : Effect -> Option BusEvent
  | .publish event => some event
  | .bind .. | .discover .. | .discoverAt .. | .release .. | .send .. | .apply .. | .save .. =>
      none

/-- The events that are published, oldest first. -/
def eventsOf (effects : List Effect) : List BusEvent := effects.filterMap Effect.event?

@[simp] theorem eventsOf_append (earlier later : List Effect) :
    eventsOf (earlier ++ later) = eventsOf earlier ++ eventsOf later :=
  List.filterMap_append

@[simp] theorem eventsOf_publish (events : List BusEvent) :
    eventsOf (events.map .publish) = events := by
  rw [eventsOf, List.filterMap_map]
  exact List.filterMap_some

/-- Where no effect publishes anything, no event is published. -/
theorem eventsOf_eq_nil {effects : List Effect}
    (silent : ∀ effect ∈ effects, effect.event? = none) : eventsOf effects = [] :=
  List.filterMap_eq_nil_iff.mpr silent

/-! ## Silence -/

/-- To drive the output or to save a setting publishes nothing. -/
theorem Effect.IsLocal.event?_eq_none {effect : Effect} (quiet : effect.IsLocal) :
    effect.event? = none := by
  cases effect with
  | publish => cases quiet
  | bind | discover | discoverAt | release | send | apply | save => rfl

/-- To look for addresses publishes nothing. -/
theorem Effect.IsAddressing.event?_eq_none {effect : Effect} (quiet : effect.IsAddressing) :
    effect.event? = none := by
  cases effect with
  | publish => cases quiet
  | bind | discover | discoverAt | release | send | apply | save => rfl

/-- To tell recipients publishes nothing. -/
theorem Network.Notice.event?_eq_none {network : Network} {group : NotificationClass}
    {effect : Effect} (notice : network.Notice group effect) : effect.event? = none := by
  cases notice <;> rfl

namespace Station

/-- Only a tick publishes events. -/
theorem eventsOf_perform {station : Station} {operation : Operation} (noTick : operation ≠ .tick) :
    eventsOf (perform operation station).effects = [] := by
  have done := carried station operation
  generalize perform operation station = outcome at done ⊢
  refine eventsOf_eq_nil fun effect member => ?_
  cases done with
  | refused | notAcked | trusted | acknowledged | timed => cases member
  | commanded _ _ _ records | served _ records => exact (records.2 effect member).event?_eq_none
  | @listed number entries update _ _ _ _ records =>
      rcases List.mem_append.mp member with asked | saved
      · exact ((Network.settles update station.network).addressing effect asked).event?_eq_none
      · exact (records.2 effect saved).event?_eq_none
  | swept =>
      exact ((Network.learning_sweep _ station.network).addressing effect member).event?_eq_none
  | ticked => exact absurd rfl noTick

/-! ## Ticks -/

/-- A record is published once, before anyone is told. -/
theorem eventsOf_announce (record : EventRecord) (station : Station) :
    eventsOf (announce record station).effects = [.ofRecord record] := by
  rw [announce, Activity.run_bind, eventsOf_append]
  generalize (publish (.ofRecord record) station).state = published
  rw [Activity.run_bind, Activity.run_get]
  cases published.registry.lookup? record.notificationClass with
  | none => rfl
  | some group =>
      have tells : Obeys (Network.telling group) (do
          let _ <- Dispatch.report published.device record group) :=
        (Network.telling_report published.device record).bind fun _ => .pure _
      have silent := eventsOf_eq_nil fun effect member =>
        ((tells published.network).2 effect member).event?_eq_none
      exact congrArg ([BusEvent.ofRecord record] ++ ·) silent

/-- Records are published in their order, each of them once. -/
theorem eventsOf_announceAll (records : List EventRecord) (station : Station) :
    eventsOf (records.forM announce station).effects = records.map .ofRecord := by
  induction records generalizing station with
  | nil => rfl
  | cons record rest inductionHypothesis =>
      rw [Activity.run_forM_cons, eventsOf_append, eventsOf_announce, inductionHypothesis,
        List.map_cons, List.singleton_append]

/-- A tick publishes the changes of value, and then the records. -/
theorem eventsOf_tick (station : Station) :
    eventsOf (perform .tick station).effects =
      station.tickReport.changes ++ station.tickReport.records.map .ofRecord := by
  obtain ⟨bus, ticks⟩ := station.run_tick
  rw [ticks, eventsOf_append, eventsOf_publish, eventsOf_announceAll]

end Station

end Annunciator
