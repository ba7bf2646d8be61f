import Annunciator.Proofs.Station.Bindings
import Annunciator.Proofs.Station.Lives
import Annunciator.Proofs.Station.Requests

/-!
# Refusals and reach

A station that refuses an operation has done nothing yet: all that can be refused is looked
at before anything is changed. An operation that is not refused reaches no further than the
object or the class that it names.
-/

namespace Annunciator

namespace Station

/-- The class that an operation names. -/
def Operation.class? : Operation -> Option UInt32
  | .setRecipients number _ => some number
  | .write .. | .relinquish .. | .setRelinquishDefault .. | .setOutOfService ..
  | .setReliability .. | .acknowledge .. | .tick | .sweep | .setClock .. => none

/-- The monitor of the point that takes the commands for an object. -/
def monitor? (station : Station) (object : ObjectId) : Option Monitor :=
  (station.point? object).map (·.monitor)

/-- How far an operation reaches. -/
structure IsConfined (operation : Operation) (before after : Station) : Prop where
  objects : ∀ object, operation.object? ≠ some object ->
    after.point? object = before.point? object
  classes : ∀ number, operation.class? ≠ some number ->
    after.registry.lookup? number = before.registry.lookup? number
  /-- A point command leaves the monitor of its object alone. -/
  monitor : ∀ object asked, operation.request? = some (object, .ladder asked) ->
    after.monitor? object = before.monitor? object
  /-- An acknowledgment leaves the ladder of its object alone. -/
  ladder : ∀ request, operation = .acknowledge request ->
    after.ladder? request.object = before.ladder? request.object

/-- A refused operation changes nothing and has no effects. -/
theorem perform_of_refused {station : Station} {operation : Operation}
    (refused : (perform operation station).answer.isRefusal = true) :
    (perform operation station).state = station ∧ (perform operation station).effects = [] := by
  have done := carried station operation
  generalize perform operation station = outcome at done refused ⊢
  cases done with
  | refused | notAcked => exact ⟨rfl, rfl⟩
  | commanded | served | trusted | acknowledged | listed | swept | ticked | timed => cases refused

/-- Only a new recipient list changes the classes. -/
theorem registry_perform (station : Station) (operation : Operation) :
    (perform operation station).state.registry = station.registry ∨
      ∃ number entries update, operation = .setRecipients number entries ∧
        station.registry.replaceRecipients number entries =
          .ok (update, (perform operation station).state.registry) := by
  have done := carried station operation
  generalize perform operation station = outcome at done ⊢
  cases done with
  | refused | notAcked | trusted | acknowledged | swept | timed => exact .inl rfl
  | commanded _ _ _ records | served _ records =>
      obtain ⟨⟨output, settings, rfl⟩, -⟩ := records
      exact .inl rfl
  | listed accepted records =>
      obtain ⟨⟨output, settings, rfl⟩, -⟩ := records
      exact .inr ⟨_, _, _, rfl, accepted⟩
  | ticked spreads =>
      obtain ⟨⟨sent, bus, rfl⟩, -⟩ := spreads
      exact .inl rfl

/-- A new recipient list changes the class that it is for, and no other. -/
theorem lookup?_perform (station : Station) (operation : Operation) {number : UInt32}
    (other : operation.class? ≠ some number) :
    (perform operation station).state.registry.lookup? number =
      station.registry.lookup? number := by
  rcases registry_perform station operation with
    same | ⟨listed, entries, update, asks, accepted⟩
  · rw [same]
  · obtain ⟨group, changed, replaced⟩ := ClassRegistry.of_replaceRecipients accepted
    have differs : listed ≠ number := fun here => other (by rw [asks, here]; rfl)
    exact (replaced.lookup number).trans (if_neg differs)

section Single

variable {station : Station} (single : station.IsSingle)
include single

/-- Only what is asked of an object changes its point between ticks. -/
theorem point?_perform {operation : Operation} (noTick : operation ≠ .tick) {object : ObjectId}
    (other : operation.object? ≠ some object) :
    (perform operation station).state.point? object = station.point? object := by
  cases requests : operation.request? with
  | none => exact point?_of_no_request requests noTick object
  | some request =>
      obtain ⟨target, asked⟩ := request
      have differs : target ≠ object := fun same => by
        rw [Operation.object?, requests, ← same] at other
        exact other rfl
      cases known : station.point? target with
      | none =>
          rw [(perform_of_refused (isRefusal_of_unknown single requests known)).1]
      | some point => rw [point?_request single requests known, if_neg differs]

/-- What a request leaves alone in every point it leaves alone in the point of its object. -/
theorem map_point?_request {Trait : Type} {trait : Point -> Trait} {operation : Operation}
    {object : ObjectId} {asked : Point.Operation}
    (requests : operation.request? = some (object, asked))
    (kept : ∀ point : Point, trait (point.perform asked).2 = trait point) :
    ((perform operation station).state.point? object).map trait =
      (station.point? object).map trait := by
  cases known : station.point? object with
  | none =>
      rw [(perform_of_refused (isRefusal_of_unknown single requests known)).1, known]
  | some point =>
      rw [point?_request single requests known, if_pos rfl, Option.map_some, Option.map_some, kept]

/-- An operation between ticks reaches no further than the object or the class it names. -/
theorem isConfined_perform {operation : Operation} (noTick : operation ≠ .tick) :
    IsConfined operation station (perform operation station).state where
  objects _ other := point?_perform single noTick other
  classes _ other := lookup?_perform station operation other
  monitor _ _ requests := map_point?_request single requests fun _ => rfl
  ladder request asks := by
    subst asks
    refine map_point?_request single rfl fun point => ?_
    rw [point.state_perform_acknowledge]

end Single

/-- Whatever has happened to a started station, an operation that it refuses changes nothing
and has no effects: the points, the classes, the bindings, the transmissions, the output, the
settings and the bus are as they were. And an operation between ticks leaves all objects and
classes alone but the one that it names, and of the point of its object what it does not
command. -/
theorem refused_or_confined {configuration : Configuration} {clock : Timestamp}
    {station : Station} {effects : List Effect}
    (started : start configuration clock = .ok (station, effects))
    (happenings : List Happening) (operation : Operation) :
    ((perform operation (station.through happenings)).answer.isRefusal = true ->
      (perform operation (station.through happenings)).state = station.through happenings ∧
        (perform operation (station.through happenings)).effects = []) ∧
    (operation ≠ .tick ->
      IsConfined operation (station.through happenings)
        (perform operation (station.through happenings)).state) :=
  ⟨perform_of_refused,
    isConfined_perform ((inOrder_of_start started).through happenings).single⟩

/-- A fan that starts at the given commands. -/
def fanEntry (number : UInt32) (commands : List CommandEntry) : PointEntry where
  objectType := .binaryOutput
  number
  name := "fan"
  notificationClass := 1
  relinquishDefault := none
  numberOfStates := none
  alarmValue := none
  alarmValues := []
  faultValues := []
  reporting := .standard
  commands

/-- Two fans, of which the second one runs from the start. -/
def fans : Configuration :=
  { Configuration.standard with
    points := [fanEntry 1 [], fanEntry 2 [⟨8, .binary .active⟩]] }

/-- The reserved priority is refused. The first fan is switched on without a word to its
monitor, and without a look at the second one. -/
theorem fans_refused_or_confined :
    ∃ station effects, start fans Timestamp.noon = .ok (station, effects) ∧
      (perform (.write ⟨.binaryOutput, 1⟩ 6 .null)
        (station.through [.asked .sweep])).state = station.through [.asked .sweep] ∧
      IsConfined (.write ⟨.binaryOutput, 1⟩ 8 (.value (.binary .active)))
        (station.through [.asked .sweep])
        (perform (.write ⟨.binaryOutput, 1⟩ 8 (.value (.binary .active)))
          (station.through [.asked .sweep])).state := by
  refine ⟨_, _, rfl, ?_, ?_⟩
  · have started : start fans Timestamp.noon = .ok _ := rfl
    exact ((refused_or_confined started [.asked .sweep] (.write ⟨.binaryOutput, 1⟩ 6 .null)).1
      rfl).1
  · have started : start fans Timestamp.noon = .ok _ := rfl
    exact (refused_or_confined started [.asked .sweep]
      (.write ⟨.binaryOutput, 1⟩ 8 (.value (.binary .active)))).2 (by decide)

end Station

end Annunciator
