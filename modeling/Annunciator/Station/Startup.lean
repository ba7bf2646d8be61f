import Annunciator.Configuration.Basic
import Annunciator.Station.Commands
import Annunciator.Station.Recipients

/-!
# Starting a station

A station is set up from a configuration in a fixed order: the peers, the classes
without recipients, the recipients class by class, the points, and their first
commands. The first thing that cannot be done is the end of it.
-/

namespace Annunciator

/-- Why a station does not start. -/
inductive StartupError where
  /-- There is no event bus of the wanted capacity. -/
  | bus
  | recipients (error : ProtocolError)
  /-- The description of a point is refused. -/
  | description (error : ValidationError)
  /-- A point has no place in its table. -/
  | placement (error : ValidationError)
  | command (error : ProtocolError)
  deriving DecidableEq, Repr

/-- The wording of a failed start. -/
def StartupError.message : StartupError -> String
  | bus => "no event bus of this capacity"
  | recipients error | command error => error.message
  | description error | placement error => error.message

namespace PointTable

/-- Set up the point of an entry and add it to a table. -/
def addEntry (table : PointTable) (entry : PointEntry) : Except StartupError PointTable := do
  let point <- entry.build.mapError .description
  (table.insert point).mapError .placement

/-- Add the points of all entries that can be added, and answer what became of each
entry. One that is refused leaves the table as it is. -/
def addEntries (table : PointTable) :
    List PointEntry -> List (Except StartupError Unit) × PointTable
  | [] => ([], table)
  | entry :: rest =>
      let added := table.addEntry entry
      let (outcomes, final) := (added.toOption.getD table).addEntries rest
      (added.map (fun _ => ()) :: outcomes, final)

end PointTable

namespace Configuration

/-- The network with its peers. Of two peers with one number the later one counts. -/
def network (configuration : Configuration) : Network :=
  configuration.peers.foldl (fun network peer => network.addPeer peer.device peer.address)
    .empty

/-- The classes without their recipients. -/
def registry (configuration : Configuration) : ClassRegistry :=
  configuration.classes.foldl (fun registry entry => registry.insert entry.group) .empty

/-- Add the point of an entry to the table of its type, which is made if there is
none yet. -/
def place (tables : SortedMap ObjectType PointTable) (entry : PointEntry) :
    Except StartupError (SortedMap ObjectType PointTable) := do
  let table := (tables.get? entry.objectType).getD (.empty entry.objectType)
  pure (tables.insert entry.objectType (<- table.addEntry entry))

/-- The tables of all points, in ascending order of types. -/
def tables (configuration : Configuration) : Except StartupError (List PointTable) := do
  let tables <- configuration.points.foldlM place ∅
  pure tables.values

end Configuration

namespace Station

/-- An activity of a station that ends at the first thing that cannot be done. -/
abbrev Startup := ExceptT StartupError (Activity Station)

/-- Do something whose refusal ends the startup. -/
def Startup.require {Refusal Answer : Type} (cause : Refusal -> StartupError)
    (activity : Activity Station (Except Refusal Answer)) : Startup Unit :=
  ExceptT.mk do
    match <- activity with
    | .ok _ => pure (.ok ())
    | .error refusal => pure (.error (cause refusal))

/-- Fill the recipient list of every class. -/
def fillRecipients (configuration : Configuration) : Startup Unit :=
  configuration.classes.forM fun entry =>
    .require .recipients (setRecipients entry.number entry.recipients)

/-- Set up the tables of points. -/
def furnish (configuration : Configuration) : Startup Unit :=
  match configuration.tables with
  | .ok tables => ExceptT.lift (Activity.modify fun station => { station with tables })
  | .error error => throw error

/-- Give all first commands, point by point. -/
def giveCommands (configuration : Configuration) : Startup Unit :=
  configuration.points.forM fun entry => entry.commands.forM fun first =>
    .require .command (write entry.object first.priority (.value first.value))

/-- Everything that is done before the station runs. -/
def prepare (configuration : Configuration) : Startup Unit := do
  fillRecipients configuration
  furnish configuration
  giveCommands configuration

/-- Start a station at a time. Answers the station that is ready to run and what
was done to get there. -/
def start (configuration : Configuration) (clock : Timestamp) :
    Except StartupError (Station × List Effect) :=
  match EventBus.open? configuration.busCapacity.toNat with
  | none => .error .bus
  | some bus =>
      let station := { bare configuration.device clock bus with
        network := configuration.network
        registry := configuration.registry }
      let outcome := (prepare configuration).run station
      match outcome.answer with
      | .ok () => .ok (outcome.state, outcome.effects)
      | .error error => .error error

end Station

end Annunciator
