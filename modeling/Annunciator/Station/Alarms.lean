import Annunciator.Station.Basic

/-!
# Alarm queries and acknowledgments

What the whole station answers about its active events and alarms, and the
routing of acknowledgments to the objects they name.
-/

namespace Annunciator.Station

/-- A page of active events in ascending order of objects. -/
def eventInformation (station : Station) (last : Option ObjectId) (max : Nat) :
    EventInformation :=
  station.objectTable.eventInformation station.registry last max

/-- Every active alarm in ascending order of objects. -/
def alarmSummaries (station : Station) : List AlarmSummary :=
  station.objectTable.alarmSummaries

/-- Acknowledge a transition of the object that the request names. -/
def acknowledge (request : AckRequest) :
    Activity Station (Except AckError AckOutcome) := do
  let station <- Activity.get
  match station.objectTable.find? request.object.objectType with
  | none => pure (.error (.rejected .unknownObject))
  | some table =>
      match table.acknowledge request.object.number request with
      | .error error => pure (.error error)
      | .ok (outcome, after) =>
          Activity.modify fun station => { station with
            tables := modifyFirst (·.objectType = request.object.objectType) (fun _ => after)
              station.tables }
          pure (.ok outcome)

end Annunciator.Station
