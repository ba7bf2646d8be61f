import Annunciator.Station.Basic

/-!
# Evaluation

The tick that evaluates every object of a station, and the sweep that looks for
recipients whose addresses are not known.
-/

namespace Annunciator.Station

/-- What the reporting tables produce on a tick, in the order of objects. -/
def tickReport (station : Station) : TickReport :=
  let reports := station.objectTable.reporters.map fun table =>
    (table.tick station.registry station.clock).1
  ⟨reports.flatMap (·.changes), reports.flatMap (·.records)⟩

/-- Evaluate the points of the reporting tables. -/
def evaluate (station : Station) : Station :=
  { station with
    tables := modifyReporters (fun table => (table.tick station.registry station.clock).2)
      [] station.tables }

/-- Publish an event on the bus. -/
def publish (event : BusEvent) : Activity Station Unit := onBus (EventBus.publish event)

/-- Publish a record and send it to the recipients of its class. A record whose
class does not exist is sent to nobody. -/
def announce (record : EventRecord) : Activity Station Unit := do
  publish (.ofRecord record)
  let station <- Activity.get
  match station.registry.lookup? record.notificationClass with
  | none => pure ()
  | some group => do
      let _ <- onNetwork (Dispatch.report station.device record group)

/-- Evaluate every object once. First the changes of value are published, then the
records one by one are published and sent. -/
def tick : Activity Station (List EventRecord) := do
  let report := (<- Activity.get).tickReport
  Activity.modify evaluate
  report.changes.forM publish
  report.records.forM announce
  pure report.records

/-- Look for every device recipient that is not bound. Answers how many were not. -/
def sweep : Activity Station Nat := do
  onNetwork (Network.sweep (<- Activity.get).registry.deviceRecipients)

/-- Put the clock forward, unless the calendar ends before that. -/
def advance? (station : Station) (milliseconds : Nat) : Option Station :=
  (station.clock.later? milliseconds).map fun clock => { station with clock }

/-- Put the clock forward and evaluate every object, a number of times over. There
is no answer if the calendar ends before that. -/
def ticksAfter? (milliseconds : Nat) :
    Nat -> Station -> Option (Outcome Station (List (List EventRecord)))
  | 0, station => some ⟨[], station, []⟩
  | times + 1, station => do
      let first := tick (<- station.advance? milliseconds)
      let rest <- ticksAfter? milliseconds times first.state
      some ⟨first.answer :: rest.answer, rest.state, first.effects ++ rest.effects⟩

end Annunciator.Station
