import Annunciator.Proofs.Station.Points
import Annunciator.Proofs.Station.Startup

/-!
# Lives of a station

A station is started from a configuration. From then on it is asked for operations, and its
surroundings change without its doing: devices come and go, transmissions and settings meet
failures, listeners take events from the bus. The states that a station can be in are those
that such a life leads to.
-/

namespace Annunciator.Station

/-- What a station lives among. -/
structure Surroundings where
  network : Network
  output : OutputLog
  settings : SettingsStore
  bus : EventBus

/-- The station in other surroundings. -/
def amid (station : Station) (surroundings : Surroundings) : Station :=
  { station with
    network := surroundings.network
    output := surroundings.output
    settings := surroundings.settings
    bus := surroundings.bus }

/-- What can happen to a station. -/
inductive Happening where
  | asked (operation : Operation)
  /-- The surroundings become others, in whatever way. -/
  | surrounded (surroundings : Surroundings)

/-- What comes of what happens, and the station after it. -/
def undergo (station : Station) : Happening -> (Answer × List Effect) × Station
  | .asked operation => carryOut station operation
  | .surrounded surroundings => ((.done, []), station.amid surroundings)

/-- A step in the life of a station. -/
abbrev LifeStep := Step Station Happening (Answer × List Effect)

/-- The steps of a life, oldest first. -/
def life (station : Station) (happenings : List Happening) : List LifeStep :=
  historyOf undergo station happenings

/-- The station that a life leads to. -/
def through (station : Station) (happenings : List Happening) : Station :=
  stateAfter undergo station happenings

/-- To be asked for operations only is a life, too. -/
theorem through_asked (station : Station) (operations : List Operation) :
    station.through (operations.map .asked) = station.after operations :=
  List.foldl_map

/-- Nothing that happens moves an object. -/
theorem layout_undergo (station : Station) (happening : Happening) :
    (undergo station happening).2.layout = station.layout := by
  cases happening with
  | asked operation => exact stays_perform operation station
  | surrounded surroundings => rfl

/-- No life moves an object. -/
theorem layout_through (station : Station) (happenings : List Happening) :
    (station.through happenings).layout = station.layout :=
  history_invariant (fun _ (state : Station) => state.layout = station.layout) rfl
    (fun _ state happening kept => (layout_undergo state happening).trans kept) happenings

/-- Nothing that happens disturbs the order. -/
theorem InOrder.undergo {station : Station} (inOrder : station.InOrder) (happening : Happening) :
    (undergo station happening).2.InOrder := by
  cases happening with
  | asked operation => exact inOrder.perform operation
  | surrounded surroundings => exact ⟨inOrder.proper, inOrder.single⟩

/-- No life disturbs the order. -/
theorem InOrder.through {station : Station} (inOrder : station.InOrder)
    (happenings : List Happening) : (station.through happenings).InOrder :=
  history_invariant (fun _ (state : Station) => state.InOrder) inOrder
    (fun _ _ happening kept => kept.undergo happening) happenings

/-- A started station is in order. -/
theorem inOrder_of_start {configuration : Configuration} {clock : Timestamp} {station : Station}
    {effects : List Effect} (started : start configuration clock = .ok (station, effects)) :
    station.InOrder := by
  obtain ⟨assembled, isAssembled, rfl⟩ := exists_assembled started
  rw [← through_asked]
  exact isAssembled.inOrder.through _

end Annunciator.Station
