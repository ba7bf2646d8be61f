import Annunciator.Proofs.RecipientLists
import Annunciator.Proofs.Station.Furnishing
import Annunciator.Proofs.Station.Locality

/-!
# Isolation of objects

What becomes of an object depends on what it is asked and on when it is evaluated, and on
nothing else. Its point could as well be alone: the other objects, the recipients of events and
the whole network have no part in what it answers, reports and publishes. So two stations that
differ in all of this cannot be told apart by looking at the object.
-/

namespace Annunciator

/-- Another list of recipients does not change which acknowledgments are required. -/
theorem ClassRegistry.ackRequired_replaceRecipients {registry after : ClassRegistry}
    {number : UInt32} {entries : List Destination} {update : RecipientUpdate}
    (replaced : registry.replaceRecipients number entries = .ok (update, after)) (other : UInt32) :
    after.ackRequired other = registry.ackRequired other := by
  obtain ⟨group, known, -, rfl, -, -⟩ := replaceRecipients_eq_ok_iff.mp replaced
  rw [ackRequired, ackRequired, lookup?_relisted known]
  split
  · next here =>
      subst here
      rw [known, Option.map_some, Option.map_some]
  · rfl

namespace Station

/-! ## What is seen of an object -/

/-- What concerns an object: that it is asked something, or that it is evaluated. -/
inductive Turn where
  | asked (operation : Operation)
  | ticked (now : Timestamp)
  deriving DecidableEq

/-- What a step has to do with an object. -/
def turn? (object : ObjectId) (step : LifeStep) : Option Turn :=
  match step.operation with
  | .asked operation =>
      if operation = .tick then some (.ticked step.before.clock)
      else if operation.object? = some object then some (.asked operation)
      else none
  | .surrounded _ => none

/-- The turns of an object, oldest first. -/
def turns (object : ObjectId) (steps : List LifeStep) : List Turn :=
  steps.filterMap (turn? object)

/-- What an object lets others know of itself. -/
inductive Sight where
  /-- It is asked something, and this is the answer. -/
  | answered (answer : Answer)
  | recorded (record : EventRecord)
  | published (event : BusEvent)
  deriving DecidableEq

/-- The records that an answer reports. -/
def Answer.reported : Answer -> List EventRecord
  | .records told => told
  | .value _ | .recipients _ | .acked _ | .missing _ | .done | .refused _ | .notAcked _ => []

/-- What is seen of an object in a step. -/
def sightsIn (object : ObjectId) (step : LifeStep) : List Sight :=
  (match step.operation with
    | .asked operation =>
        if operation.object? = some object then [.answered step.answer.1] else []
    | .surrounded _ => []) ++
  (step.answer.1.reported.filter (·.object = object)).map .recorded ++
  ((eventsOf step.answer.2).filter (·.object = object)).map .published

/-- What is seen of an object, oldest first. -/
def sights (object : ObjectId) (steps : List LifeStep) : List Sight :=
  steps.flatMap (sightsIn object)

theorem turns_concat (object : ObjectId) (steps : List LifeStep) (step : LifeStep) :
    turns object (steps ++ [step]) = turns object steps ++ (turn? object step).toList :=
  filterMap_concat (turn? object) steps step

theorem sights_concat (object : ObjectId) (steps : List LifeStep) (step : LifeStep) :
    sights object (steps ++ [step]) = sights object steps ++ sightsIn object step := by
  rw [sights, List.flatMap_append, List.flatMap_singleton, sights]

/-- What a point shows and becomes on its turn, all by itself. -/
def alone (registry : ClassRegistry) (point : Point) : Turn -> List Sight × Point
  | .asked operation =>
      match operation.request? with
      | some (_, asked) =>
          ([.answered (.ofPoint (point.perform asked).1)], (point.perform asked).2)
      | none => ([], point)
  | .ticked now =>
      let report := point.report registry now
      (report.record.toList.map .recorded ++
        (report.change.toList ++ report.record.toList.map BusEvent.ofRecord).map .published,
        report.after)

/-! ## Single steps -/

/-- Only a tick answers records. -/
theorem reported_perform {station : Station} {operation : Operation} (noTick : operation ≠ .tick) :
    (perform operation station).answer.reported = [] := by
  have done := carried station operation
  generalize perform operation station = outcome at done ⊢
  cases done with
  | ticked => exact absurd rfl noTick
  | refused | notAcked | commanded | served | trusted | acknowledged | listed | swept | timed => rfl

/-- The required acknowledgments are the same after every operation. -/
theorem ackRequired_perform (station : Station) (operation : Operation) (number : UInt32) :
    (perform operation station).state.registry.ackRequired number =
      station.registry.ackRequired number := by
  rcases registry_perform station operation with same | ⟨_, _, _, -, accepted⟩
  · rw [same]
  · exact ClassRegistry.ackRequired_replaceRecipients accepted number

/-- Nothing that happens to a station changes the required acknowledgments. -/
theorem ackRequired_undergo (station : Station) (happening : Happening) (number : UInt32) :
    (undergo station happening).2.registry.ackRequired number =
      station.registry.ackRequired number := by
  cases happening with
  | asked operation => exact ackRequired_perform station operation number
  | surrounded surroundings => rfl

/-- No turn takes a point to another class. -/
theorem notificationClass_alone (registry : ClassRegistry) (point : Point) (turn : Turn) :
    (alone registry point turn).2.notificationClass = point.notificationClass := by
  cases turn with
  | ticked now => rfl
  | asked operation =>
      cases operation with
      | acknowledge request =>
          change (point.perform (.acknowledge request)).2.notificationClass = _
          rw [point.state_perform_acknowledge]
      | write | relinquish | setRelinquishDefault | setOutOfService | setReliability
      | setRecipients | tick | sweep | setClock => rfl

section Steps

variable {station : Station} (inOrder : station.InOrder) {object : ObjectId} {point : Point}
  (known : station.point? object = some point)
include inOrder known

/-- What is not the turn of an object shows nothing of it, and leaves it as it is. -/
theorem quiet_step {happening : Happening}
    (quiet : turn? object (stepOf undergo station happening) = none) :
    sightsIn object (stepOf undergo station happening) = [] ∧
      (undergo station happening).2.point? object = some point := by
  cases happening with
  | surrounded surroundings => exact ⟨rfl, known⟩
  | asked operation =>
      have noTick : operation ≠ .tick := fun ticks => by
        subst ticks
        cases quiet
      have other : operation.object? ≠ some object := fun names => by
        simp [turn?, stepOf, noTick, names] at quiet
      have records : (perform operation station).answer.reported = [] := reported_perform noTick
      have events : eventsOf (perform operation station).effects = [] := eventsOf_perform noTick
      refine ⟨?_, (point?_perform inOrder.single noTick other).trans known⟩
      simp [sightsIn, stepOf, undergo, carryOut, other, records, events]

/-- What an object is asked it answers as if it were alone. -/
theorem asked_step (registry : ClassRegistry) {operation : Operation}
    (names : operation.object? = some object) :
    sightsIn object (stepOf undergo station (.asked operation)) =
        (alone registry point (.asked operation)).1 ∧
      (undergo station (.asked operation)).2.point? object =
        some (alone registry point (.asked operation)).2 := by
  obtain ⟨⟨target, asked⟩, requests, rfl⟩ := Option.map_eq_some_iff.mp names
  have noTick : operation ≠ .tick := fun ticks => by
    subst ticks
    cases requests
  have answer := answer_request inOrder.single requests known
  have records : (perform operation station).answer.reported = [] := reported_perform noTick
  have events : eventsOf (perform operation station).effects = [] := eventsOf_perform noTick
  have after := point?_request inOrder.single requests known target
  rw [answer] at records
  constructor
  · simp [sightsIn, stepOf, undergo, carryOut, names, records, events, answer, alone, requests]
  · rw [alone, requests]
    exact after.trans (if_pos rfl)

/-- On a tick a point reports as if it were alone. -/
theorem ticked_step {registry : ClassRegistry}
    (sameAcks : station.registry.ackRequired point.notificationClass =
      registry.ackRequired point.notificationClass) :
    sightsIn object (stepOf undergo station (.asked .tick)) =
        (alone registry point (.ticked station.clock)).1 ∧
      (undergo station (.asked .tick)).2.point? object =
        some (alone registry point (.ticked station.clock)).2 := by
  -- What the tick tells about the object is what the one point of the object tells.
  have reports := Point.report_congr sameAcks station.clock
  have records : station.tickReport.records.filter (·.object = object) =
      (point.report registry station.clock).record.toList := by
    rw [tickReport_eq, ← reports]
    refine (filter_told inOrder.proper (fun point record told => ?_) object).trans ?_
    · exact Point.object_tick told
    · rw [reportedPoint?_eq inOrder.single, known, Option.bind_some]
  have changes : station.tickReport.changes.filter (·.object = object) =
      (point.report registry station.clock).change.toList := by
    rw [changes_of_object inOrder.proper, reportedPoint?_eq inOrder.single, known,
      Option.bind_some, reports]
  have answer : (perform .tick station).answer = .records station.tickReport.records := by
    obtain ⟨bus, ticks⟩ := station.run_tick
    rw [ticks]
  have published : (station.tickReport.records.map BusEvent.ofRecord).filter (·.object = object) =
      (point.report registry station.clock).record.toList.map BusEvent.ofRecord := by
    rw [List.filter_map, ← records]
    rfl
  constructor
  · have unnamed : Operation.tick.object? = none := rfl
    simp [sightsIn, stepOf, undergo, carryOut, unnamed, answer, Answer.reported, records, changes,
      published, eventsOf_tick, alone]
  · refine (point?_tick inOrder.single object).trans ?_
    rw [known, Option.map_some, reports]
    rfl

/-- On its turn an object shows what its point shows alone, and becomes what it becomes. -/
theorem turn_step {registry : ClassRegistry} {happening : Happening} {turn : Turn}
    (sameAcks : station.registry.ackRequired point.notificationClass =
      registry.ackRequired point.notificationClass)
    (taken : turn? object (stepOf undergo station happening) = some turn) :
    sightsIn object (stepOf undergo station happening) = (alone registry point turn).1 ∧
      (undergo station happening).2.point? object = some (alone registry point turn).2 := by
  cases happening with
  | surrounded surroundings => cases taken
  | asked operation =>
      by_cases ticks : operation = .tick
      · subst ticks
        cases taken
        exact ticked_step inOrder known sameAcks
      · by_cases names : operation.object? = some object
        · simp only [turn?, stepOf, if_neg ticks, if_pos names, Option.some.injEq] at taken
          subst taken
          exact asked_step inOrder known registry names
        · simp [turn?, stepOf, ticks, names] at taken

end Steps

/-! ## Whole lives -/

/-- The point of an object has gone through its turns as if it were alone. -/
structure Isolated (registry : ClassRegistry) (object : ObjectId) (first : Point)
    (steps : List LifeStep) (station : Station) : Prop where
  inOrder : station.InOrder
  sameAcks : station.registry.ackRequired first.notificationClass =
    registry.ackRequired first.notificationClass
  point : station.point? object =
    some (stateAfter (alone registry) first (turns object steps))
  seen : sights object steps =
    (historyOf (alone registry) first (turns object steps)).flatMap (·.answer)

/-- All of its turns leave a point in the class that it was in. -/
theorem notificationClass_stateAfter (registry : ClassRegistry) (first : Point)
    (taken : List Turn) :
    (stateAfter (alone registry) first taken).notificationClass = first.notificationClass :=
  history_invariant (fun _ (point : Point) => point.notificationClass = first.notificationClass)
    rfl (fun _ point turn kept => (notificationClass_alone registry point turn).trans kept) taken

/-- Whatever happens to a station, its objects stay isolated. -/
theorem Isolated.step {registry : ClassRegistry} {object : ObjectId} {first : Point}
    {steps : List LifeStep} {station : Station}
    (isolated : Isolated registry object first steps station) (happening : Happening) :
    Isolated registry object first (steps ++ [stepOf undergo station happening])
      (undergo station happening).2 := by
  -- The point is still of the class that it started with, so the classes agree about it.
  have sameAcks := isolated.sameAcks
  rw [← notificationClass_stateAfter registry first (turns object steps)] at sameAcks
  have inOrder := isolated.inOrder.undergo happening
  have stillSame := (ackRequired_undergo station happening _).trans isolated.sameAcks
  cases taken : turn? object (stepOf undergo station happening) with
  | none =>
      obtain ⟨nothing, same⟩ := quiet_step isolated.inOrder isolated.point taken
      refine ⟨inOrder, stillSame, ?_, ?_⟩
      · rw [turns_concat, taken, Option.toList_none, List.append_nil]
        exact same
      · rw [turns_concat, taken, Option.toList_none, List.append_nil, sights_concat, nothing,
          List.append_nil, isolated.seen]
  | some turn =>
      obtain ⟨shows, becomes⟩ := turn_step isolated.inOrder isolated.point sameAcks taken
      refine ⟨inOrder, stillSame, ?_, ?_⟩
      · rw [turns_concat, taken, Option.toList_some, becomes, stateAfter_concat]
      · rw [turns_concat, taken, Option.toList_some, sights_concat, shows, isolated.seen,
          historyOf_concat, List.flatMap_append, List.flatMap_singleton]
        rfl

/-- An object goes through every life of its station as if it were alone, under classes that
require the same acknowledgments. -/
theorem isolated_life {registry : ClassRegistry} {object : ObjectId} {point : Point}
    {station : Station} (inOrder : station.InOrder)
    (sameAcks : station.registry.ackRequired point.notificationClass =
      registry.ackRequired point.notificationClass)
    (known : station.point? object = some point) (happenings : List Happening) :
    Isolated registry object point (station.life happenings) (station.through happenings) :=
  history_invariant (Isolated registry object point) ⟨inOrder, sameAcks, known, rfl⟩
    (fun _ _ happening isolated => isolated.step happening) happenings

/-! ## Started stations -/

/-- An object takes its turns in a run when it is named. -/
theorem turns_asked {operations : List Operation} (noTick : .tick ∉ operations)
    (object : ObjectId) (station : Station) :
    turns object (station.life (operations.map .asked)) =
      (operations.filter (·.object? = some object)).map .asked := by
  induction operations generalizing station with
  | nil => rfl
  | cons operation rest inductionHypothesis =>
      rw [List.mem_cons, not_or] at noTick
      have other : operation ≠ .tick := Ne.symm noTick.1
      have later := inductionHypothesis noTick.2 (undergo station (.asked operation)).2
      rw [List.map_cons, life, historyOf, turns, List.filterMap_cons, ← turns, ← life, later]
      by_cases names : operation.object? = some object <;>
        simp [turn?, stepOf, names, other]

/-- Of members with different keys only one contributes to what is collected for its key. -/
theorem flatMap_of_nodup {Item Key Found : Type} {items : List Item} {key : Item -> Key}
    {found : Item -> List Found} (distinct : (items.map key).Nodup) {item : Item}
    (listed : item ∈ items)
    (others : ∀ other ∈ items, key other ≠ key item -> found other = []) :
    items.flatMap found = found item := by
  induction items with
  | nil => cases listed
  | cons first rest inductionHypothesis =>
      obtain ⟨apart, later⟩ := List.nodup_cons.mp distinct
      rw [List.flatMap_cons]
      rcases List.mem_cons.mp listed with rfl | there
      · have nothing : rest.flatMap found = [] := List.flatMap_eq_nil_iff.mpr fun other member =>
          others other (List.mem_cons_of_mem _ member) fun same =>
            apart (List.mem_map.mpr ⟨other, member, same⟩)
        rw [nothing, List.append_nil]
      · have differ : key first ≠ key item := fun same =>
          apart (List.mem_map.mpr ⟨item, there, same.symm⟩)
        rw [others first (List.mem_cons_self ..) differ, List.nil_append]
        exact inductionHypothesis later there fun other member =>
          others other (List.mem_cons_of_mem _ member)

/-- The first commands of an entry. -/
def commandsOf (entry : PointEntry) : List Operation :=
  entry.commands.map fun first => .write entry.object first.priority (.value first.value)

/-- The first commands that name an object are those of its entry. -/
theorem filter_firstCommands {configuration : Configuration}
    (distinct : (configuration.points.map (·.object)).Nodup) {entry : PointEntry}
    (listed : entry ∈ configuration.points) :
    (firstCommands configuration).filter (·.object? = some entry.object) = commandsOf entry := by
  have names : ∀ other : PointEntry, ∀ operation ∈ commandsOf other,
      operation.object? = some other.object := by
    intro other operation member
    obtain ⟨first, -, rfl⟩ := List.mem_map.mp member
    rfl
  have all : firstCommands configuration = configuration.points.flatMap commandsOf := rfl
  rw [all, List.filter_flatMap, flatMap_of_nodup distinct listed]
  · exact List.filter_eq_self.mpr fun operation member =>
      decide_eq_true (names entry operation member)
  · intro other _ differ
    refine List.filter_eq_nil_iff.mpr fun operation member same => differ ?_
    have here := of_decide_eq_true same
    rw [names other operation member] at here
    exact Option.some.inj here

/-- There is no tick among the first commands. -/
theorem tick_not_mem_firstCommands (configuration : Configuration) :
    .tick ∉ firstCommands configuration := by
  intro member
  obtain ⟨entry, -, given⟩ := List.mem_flatMap.mp member
  obtain ⟨first, -, same⟩ := List.mem_map.mp given
  cases same

/-- No run changes the required acknowledgments. -/
theorem ackRequired_after (station : Station) (operations : List Operation) (number : UInt32) :
    (station.after operations).registry.ackRequired number =
      station.registry.ackRequired number :=
  history_invariant
    (fun _ (state : Station) => state.registry.ackRequired number =
      station.registry.ackRequired number) rfl
    (fun _ state operation kept => (ackRequired_perform state operation number).trans kept)
    operations

/-- The point of an entry when the station is started. -/
def startingPoint (registry : ClassRegistry) (entry : PointEntry) (built : Point) : Point :=
  stateAfter (alone registry) built ((commandsOf entry).map .asked)

/-- A started station has a point for every entry, which has taken the first commands of the
entry as if it were alone. -/
theorem point?_of_start {configuration : Configuration} {clock : Timestamp} {station : Station}
    {effects : List Effect} (started : start configuration clock = .ok (station, effects))
    {entry : PointEntry} (listed : entry ∈ configuration.points) {registry : ClassRegistry}
    (sameAcks : configuration.registry.ackRequired entry.notificationClass =
      registry.ackRequired entry.notificationClass) :
    ∃ built, entry.build = .ok built ∧
      station.registry.ackRequired entry.notificationClass =
        registry.ackRequired entry.notificationClass ∧
      station.point? entry.object = some (startingPoint registry entry built) := by
  obtain ⟨bus, tables, there, rfl⟩ := of_start started
  obtain ⟨new, single⟩ := isNew_tables there
  have assembled : IsAssembled
      { after (vacant configuration clock bus) (listings configuration) with tables } :=
    ⟨isSingle_iff.mpr single, new⟩
  have listedAcks := ackRequired_after (vacant configuration clock bus) (listings configuration)
    entry.notificationClass
  generalize furnished : { after (vacant configuration clock bus) (listings configuration) with
    tables : Station } = station at assembled
  have holds : configuration.tables = .ok station.tables := by rw [← furnished, there]
  have vacantAcks : station.registry.ackRequired entry.notificationClass =
      registry.ackRequired entry.notificationClass := by
    rw [← furnished]
    exact listedAcks.trans sameAcks
  obtain ⟨distinct, points⟩ := point?_of_tables holds
  obtain ⟨built, isBuilt, known⟩ := points entry listed
  -- The first commands are a life by themselves, in which only those of the entry are turns.
  rw [← (PointEntry.of_build isBuilt).2] at vacantAcks ⊢
  have isolated := isolated_life assembled.inOrder vacantAcks known
    ((firstCommands configuration).map .asked)
  have taken := isolated.point
  rw [turns_asked (tick_not_mem_firstCommands configuration),
    filter_firstCommands distinct listed, through_asked] at taken
  have acks := isolated.sameAcks
  rw [through_asked] at acks
  exact ⟨built, isBuilt, acks, taken⟩

/-- What is seen of an object, and what becomes of it, depends on its entry, on the
acknowledgments that its class requires, and on its turns. Take two stations that were started
from configurations with the same entry, and any two lives of them in which the object is asked
the same and is evaluated at the same times. Then it answers the same, the same records and
events are told about it, and its point is the same in the end, whatever the other objects,
what they are asked, the recipients of events, and the networks. -/
theorem same_sights_of_same_turns {first second : Configuration} {clock otherClock : Timestamp}
    {station other : Station} {effects otherEffects : List Effect}
    (started : start first clock = .ok (station, effects))
    (otherStarted : start second otherClock = .ok (other, otherEffects))
    {entry : PointEntry} (listed : entry ∈ first.points) (otherListed : entry ∈ second.points)
    (sameAcks : second.registry.ackRequired entry.notificationClass =
      first.registry.ackRequired entry.notificationClass)
    {happenings otherHappenings : List Happening}
    (sameTurns : turns entry.object (station.life happenings) =
      turns entry.object (other.life otherHappenings)) :
    sights entry.object (station.life happenings) =
        sights entry.object (other.life otherHappenings) ∧
      ∃ point, (station.through happenings).point? entry.object = some point ∧
        (other.through otherHappenings).point? entry.object = some point := by
  obtain ⟨built, isBuilt, acks, known⟩ := point?_of_start started listed rfl
  obtain ⟨same, isSame, otherAcks, otherKnown⟩ := point?_of_start otherStarted otherListed sameAcks
  cases isBuilt.symm.trans isSame
  have sameClass : (startingPoint first.registry entry built).notificationClass =
      entry.notificationClass :=
    (notificationClass_stateAfter _ _ _).trans (PointEntry.of_build isBuilt).2
  rw [← sameClass] at acks otherAcks
  have isolated := isolated_life (inOrder_of_start started) acks known happenings
  have otherIsolated :=
    isolated_life (inOrder_of_start otherStarted) otherAcks otherKnown otherHappenings
  refine ⟨?_, _, isolated.point, ?_⟩
  · rw [isolated.seen, otherIsolated.seen, sameTurns]
  · rw [otherIsolated.point, sameTurns]

/-- The second of the two fans without the first one, and with somebody to tell. -/
def loneFan : Configuration :=
  { Configuration.standard with
    classes := [⟨1, .replicate 1, .none, [.always (.device ⟨10⟩)]⟩]
    points := [fanEntry 2 [⟨8, .binary .active⟩]]
    peers := [⟨⟨10⟩, ⟨0, [10]⟩⟩] }

/-- The second fan is given up and evaluated, while the first one is switched on. -/
def sharedLife : List Happening :=
  [.asked (.write ⟨.binaryOutput, 1⟩ 8 (.value (.binary .active))),
    .asked (.relinquish ⟨.binaryOutput, 2⟩ 8), .asked .tick]

/-- The second fan is given up and evaluated, while its class loses its recipients. -/
def loneLife : List Happening :=
  [.asked (.relinquish ⟨.binaryOutput, 2⟩ 8), .asked (.setRecipients 1 []), .asked .tick]

/-- The second fan shows the same in both lives. -/
theorem fans_loneFan_same_sights :
    ∃ station effects other otherEffects,
      start fans Timestamp.noon = .ok (station, effects) ∧
      start loneFan Timestamp.noon = .ok (other, otherEffects) ∧
      sights ⟨.binaryOutput, 2⟩ (station.life sharedLife) =
        sights ⟨.binaryOutput, 2⟩ (other.life loneLife) := by
  refine ⟨_, _, _, _, rfl, rfl, ?_⟩
  have started : start fans Timestamp.noon = .ok _ := rfl
  have otherStarted : start loneFan Timestamp.noon = .ok _ := rfl
  have listed : fanEntry 2 [⟨8, .binary .active⟩] ∈ fans.points :=
    List.mem_cons_of_mem _ (List.mem_singleton_self _)
  refine (same_sights_of_same_turns started otherStarted listed (List.mem_singleton_self _) rfl
    ?_).1
  decide +kernel

end Station

end Annunciator
