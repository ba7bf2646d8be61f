import Annunciator.Dispatch
import Annunciator.ObjectTable
import Annunciator.Surroundings.EventBus
import Annunciator.Surroundings.Output
import Annunciator.Surroundings.Settings

/-!
# Stations

A station owns tables of points and a registry of notification classes. It lives
among a network, a physical output, a store of settings and an event bus.
-/

namespace Annunciator

/-- A station and its surroundings. -/
structure Station where
  device : DeviceInstance
  clock : Timestamp
  registry : ClassRegistry
  tables : List PointTable
  network : Network
  output : OutputLog
  settings : SettingsStore
  bus : EventBus

namespace Station

/-- A station without classes and points. -/
def bare (device : DeviceInstance) (clock : Timestamp) (bus : EventBus) : Station where
  device
  clock
  registry := .empty
  tables := []
  network := .empty
  output := .empty
  settings := .empty
  bus

/-- The tables as they report. -/
def objectTable (station : Station) : ObjectTable := .ofTables station.tables

/-! ## Acting on the surroundings -/

section Surroundings

variable {Answer : Type}

/-- Act on the network. -/
def onNetwork (activity : Activity Network Answer) : Activity Station Answer :=
  activity.within (·.network) fun station network => { station with network }

/-- Act on the physical output. -/
def onOutput (activity : Activity OutputLog Answer) : Activity Station Answer :=
  activity.within (·.output) fun station output => { station with output }

/-- Act on the store of settings. -/
def onSettings (activity : Activity SettingsStore Answer) : Activity Station Answer :=
  activity.within (·.settings) fun station settings => { station with settings }

/-- Act on the event bus. -/
def onBus (activity : Activity EventBus Answer) : Activity Station Answer :=
  activity.within (·.bus) fun station bus => { station with bus }

end Surroundings

end Station

end Annunciator
