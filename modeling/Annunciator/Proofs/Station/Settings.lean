import Annunciator.Proofs.Settings
import Annunciator.Proofs.Station.Locality

/-!
# Saved settings

What a station is told to keep it also saves: the commanded values of an object with every
accepted command, its default and its service flag when they are set, and the recipient list of
a class when it is replaced. Nothing else is saved and nothing is saved twice under one name,
so the store holds what is set at the time, of all that was ever set.
-/

namespace Annunciator

open SettingsStore (Stores)

namespace Station

/-! ## What is set, and what of it is saved -/

/-- What is set at the time. -/
def current? (station : Station) : Setting -> Option Json
  | .priorityArray object => (station.ladder? object).map fun ladder => toJson ladder.slots
  | .relinquishDefault object =>
      (station.ladder? object).map fun ladder => toJson ladder.relinquishDefault
  | .outOfService object => (station.ladder? object).map fun ladder => toJson ladder.outOfService
  | .recipientList number =>
      (station.registry.lookup? number).map fun group => toJson group.slots

/-- What an operation saves if it is accepted. -/
def Operation.settings : Operation -> List Setting
  | .write object _ _ | .relinquish object _ => [.priorityArray object]
  | .setRelinquishDefault object _ => [.priorityArray object, .relinquishDefault object]
  | .setOutOfService object _ => [.outOfService object]
  | .setRecipients number _ => [.recipientList number]
  | .setReliability .. | .acknowledge .. | .tick | .sweep | .setClock .. => []

/-- Some settings were set and saved. All others are as they were, and so is the rest of the
store. -/
structure Saves (settings : List Setting) (before after : Station) : Prop where
  stores : Stores settings after.current? before.settings after.settings
  unchanged : ∀ setting ∉ settings, after.current? setting = before.current? setting

/-- What is set stays so while no ladder changes but for what it noticed, and no class does. -/
theorem current?_of_quiet {before after : Station}
    (ladders : ∀ object, after.quietLadder? object = before.quietLadder? object)
    (registry : after.registry = before.registry) (setting : Setting) :
    after.current? setting = before.current? setting := by
  have read {Read : Type} (part : PriorityLadder -> Read)
      (quiet : ∀ ladder, part ladder.takeChanged.2 = part ladder) (object : ObjectId) :
      (after.ladder? object).map part = (before.ladder? object).map part := by
    have same := congrArg (Option.map part) (ladders object)
    simpa only [quietLadder?, Option.map_map, Function.comp_def, quiet] using same
  cases setting with
  | priorityArray object => exact read (toJson ·.slots) (fun _ => rfl) object
  | relinquishDefault object => exact read (toJson ·.relinquishDefault) (fun _ => rfl) object
  | outOfService object => exact read (toJson ·.outOfService) (fun _ => rfl) object
  | recipientList number => rw [current?, current?, registry]

/-- A station in which one ladder has given way to another one. -/
structure Relaid (object : ObjectId) (old ladder : PriorityLadder) (before after : Station) :
    Prop where
  known : before.ladder? object = some old
  ladders : ∀ other, after.ladder? other =
    if object = other then some ladder else before.ladder? other
  registry : after.registry = before.registry

section Relaid

variable {object : ObjectId} {old ladder : PriorityLadder} {before after : Station}
  (relaid : Relaid object old ladder before after)
include relaid

theorem Relaid.ladder?_eq : after.ladder? object = some ladder := by
  rw [relaid.ladders, if_pos rfl]

/-- What is set changes only with the parts of the ladder that are not kept. -/
theorem Relaid.unchanged {setting : Setting}
    (slots : setting = .priorityArray object -> ladder.slots = old.slots)
    (default : setting = .relinquishDefault object ->
      ladder.relinquishDefault = old.relinquishDefault)
    (service : setting = .outOfService object -> ladder.outOfService = old.outOfService) :
    after.current? setting = before.current? setting := by
  have read {Part : Type} [JsonForm Part] (part : PriorityLadder -> Part) (other : ObjectId)
      (kept : object = other -> part ladder = part old) :
      (after.ladder? other).map (toJson ∘ part) = (before.ladder? other).map (toJson ∘ part) := by
    rw [relaid.ladders]
    split
    · next same =>
        rw [← same, relaid.known, Option.map_some, Option.map_some, Function.comp_apply, kept same,
          Function.comp_apply]
    · rfl
  cases setting with
  | priorityArray other => exact read (·.slots) other fun same => slots (by rw [same])
  | relinquishDefault other =>
      exact read (·.relinquishDefault) other fun same => default (by rw [same])
  | outOfService other => exact read (·.outOfService) other fun same => service (by rw [same])
  | recipientList number => rw [current?, current?, relaid.registry]

end Relaid

section Perform

variable {station : Station} (intact : station.settings.fault = none)

/-- A command changes the ladder of its object and saves its slots, unless it is refused. -/
theorem command_relays (object : ObjectId)
    (change : PriorityLadder -> Except ProtocolError (Command × PriorityLadder)) :
    (∃ error, command object change station = ⟨.error error, station, []⟩) ∨
      ∃ old result ladder after effects, change old = .ok (result, ladder) ∧
        command object change station = ⟨.ok result.new, after, effects⟩ ∧
        Relaid object old ladder station after ∧
        after.settings =
          (SettingsStore.persist (priorityArrayKey object) ladder.slots station.settings).state := by
  cases known : station.point? object with
  | none => exact .inl ⟨.unknownObject, by simp [command, known]⟩
  | some point =>
      rw [run_command known]
      cases granted : change point.ladder with
      | error error => exact .inl ⟨error, rfl⟩
      | ok accepted =>
          obtain ⟨result, ladder⟩ := accepted
          have saves : ∀ middle, (recordCommand object result ladder middle).state.settings =
              (SettingsStore.persist (priorityArrayKey object) ladder.slots
                middle.settings).state := by
            intro middle
            rw [recordCommand]
            cases result.actuate <;> rfl
          have same := saves (station.setPoint object { point with ladder })
          obtain ⟨⟨output, settings, recorded⟩, -⟩ := recording_recordCommand object result ladder
            (station.setPoint object { point with ladder })
          refine .inr ⟨point.ladder, result, ladder, _, _, granted, rfl, ⟨?_, ?_, ?_⟩, same⟩
          · rw [ladder?, known, Option.map_some]
          · rw [recorded]
            exact ladder?_setPoint known
          · rw [recorded]
            rfl

include intact

/-- A command to a priority saves the slots. -/
theorem saves_written {object : ObjectId}
    {change : PriorityLadder -> Except ProtocolError (Command × PriorityLadder)}
    (keeps : ∀ ladder result after, change ladder = .ok (result, after) ->
      after.relinquishDefault = ladder.relinquishDefault ∧ after.outOfService = ladder.outOfService)
    (accepted : (answerOf .value (command object change station).answer).isRefusal = false) :
    Saves [.priorityArray object] station (command object change station).state := by
  rcases command_relays object change with
    ⟨error, refuses⟩ | ⟨old, result, ladder, after, effects, granted, done, relaid, saved⟩
  · rw [refuses] at accepted
    cases accepted
  · obtain ⟨sameDefault, sameService⟩ := keeps old result ladder granted
    rw [done]
    refine ⟨?_, fun setting other => ?_⟩
    · have held : after.current? (.priorityArray object) = some (toJson ladder.slots) := by
        rw [current?, relaid.ladder?_eq, Option.map_some]
      rw [saved]
      exact (Stores.nothing intact after.current?).concat held
    · exact relaid.unchanged (fun same => absurd (List.mem_singleton.mpr same) other)
        (fun _ => sameDefault) (fun _ => sameService)

/-- A new default saves the slots first and then itself. -/
theorem saves_setRelinquishDefault {object : ObjectId} {value : PointValue}
    (accepted : (perform (.setRelinquishDefault object value) station).answer.isRefusal = false) :
    Saves [.priorityArray object, .relinquishDefault object] station
      (perform (.setRelinquishDefault object value) station).state := by
  rw [perform, Activity.run_map, setRelinquishDefault, Activity.run_bind] at accepted ⊢
  rcases command_relays object (·.setRelinquishDefault value) with
    ⟨error, refuses⟩ | ⟨old, result, ladder, after, effects, granted, done, relaid, saved⟩
  · rw [refuses] at accepted
    cases accepted
  · obtain ⟨isDefault, sameService⟩ := PriorityLadder.setRelinquishDefault_sets granted
    rw [done]
    refine ⟨?_, fun setting other => ?_⟩
    · have slots : after.current? (.priorityArray object) = some (toJson ladder.slots) := by
        rw [current?, relaid.ladder?_eq, Option.map_some]
      have default : after.current? (.relinquishDefault object) = some (toJson value) := by
        rw [current?, relaid.ladder?_eq, Option.map_some, isDefault]
      have first : Stores [.priorityArray object] after.current? station.settings after.settings := by
        rw [saved]
        exact (Stores.nothing intact after.current?).concat slots
      exact first.concat default
    · exact relaid.unchanged (fun same => absurd (by simp [same]) other)
        (fun same => absurd (by simp [same]) other) (fun _ => sameService)

/-- A switch of the service flag is saved, also one that changes nothing. -/
theorem saves_setOutOfService {object : ObjectId} {value : Bool}
    (accepted : (perform (.setOutOfService object value) station).answer.isRefusal = false) :
    Saves [.outOfService object] station
      (perform (.setOutOfService object value) station).state := by
  rw [perform, Activity.run_map, setOutOfService, Activity.run_bind, Activity.run_get] at accepted ⊢
  cases known : station.point? object with
  | none =>
      simp only [known] at accepted
      cases accepted
  | some point =>
      obtain ⟨isValue, sameSlots, sameDefault⟩ := point.ladder.setOutOfService_sets value
      have relaid : Relaid object point.ladder (point.ladder.setOutOfService value) station
          (station.setPoint object (point.setOutOfService value)) := by
        refine ⟨?_, ladder?_setPoint known, rfl⟩
        rw [ladder?, known, Option.map_some]
      have held : (station.setPoint object (point.setOutOfService value)).current?
          (.outOfService object) = some (toJson value) := by
        rw [current?, relaid.ladder?_eq, Option.map_some, isValue]
      refine ⟨(Stores.nothing intact _).concat held, fun setting other => ?_⟩
      exact relaid.unchanged (fun _ => sameSlots) (fun _ => sameDefault)
        (fun same => absurd (List.mem_singleton.mpr same) other)

/-- A new recipient list is saved as the slots that it leaves in its class. -/
theorem saves_setRecipients {number : UInt32} {entries : List Destination}
    (accepted : (perform (.setRecipients number entries) station).answer.isRefusal = false) :
    Saves [.recipientList number] station
      (perform (.setRecipients number entries) station).state := by
  rw [perform, Activity.run_map] at accepted ⊢
  cases replaced : station.registry.replaceRecipients number entries with
  | error error =>
      rw [run_setRecipients_of_refused replaced] at accepted
      cases accepted
  | ok replacement =>
      obtain ⟨update, registry⟩ := replacement
      obtain ⟨group, known, -, entered, -⟩ := ClassRegistry.replaceRecipients_eq_ok_iff.mp replaced
      have lookups := ClassRegistry.lookup?_relisted known entries
      rw [← entered] at lookups
      rw [run_setRecipients replaced]
      -- Only the registry, the network and the store are not those of the station before.
      have held : current? { station with registry } (.recipientList number) =
          some (toJson (entries.map slotFor)) := by
        rw [current?, lookups, if_pos rfl, Option.map_some]
      refine ⟨(Stores.nothing intact (current? { station with registry })).concat held, ?_⟩
      intro setting other
      cases setting with
      | priorityArray | relinquishDefault | outOfService => rfl
      | recipientList listed =>
          have differ : number ≠ listed := fun same =>
            other (List.mem_singleton.mpr (congrArg Setting.recipientList same.symm))
          have elsewhere := lookups listed
          rw [if_neg differ] at elsewhere
          exact congrArg (Option.map fun group : NotificationClass => toJson group.slots) elsewhere

/-- An operation that saves nothing changes nothing that is set. -/
theorem saves_nothing {operation : Operation} (saves : operation.settings = []) :
    Saves [] station (perform operation station).state := by
  have noCommand : operation.command? = none := by
    cases operation <;> first | rfl | cases saves
  have noSwitch : ∀ object value, operation ≠ .setOutOfService object value := by
    rintro object value rfl
    cases saves
  have quiet (object : ObjectId) : (perform operation station).state.quietLadder? object =
      station.quietLadder? object := quietLadder?_perform noCommand noSwitch object
  have still : (perform operation station).state.settings = station.settings ∧
      (perform operation station).state.registry = station.registry := by
    have done := carried station operation
    generalize perform operation station = outcome at done ⊢
    cases done with
    | refused | notAcked | trusted | acknowledged | swept | timed => exact ⟨rfl, rfl⟩
    | commanded commands =>
        rw [noCommand] at commands
        cases commands
    | served | listed => cases saves
    | ticked spreads =>
        obtain ⟨⟨sent, bus, rfl⟩, -⟩ := spreads
        exact ⟨rfl, rfl⟩
  refine ⟨?_, fun setting _ => current?_of_quiet quiet still.2 setting⟩
  rw [still.1]
  exact Stores.nothing intact _

/-- An accepted operation sets and saves what it is about, and nothing else. -/
theorem saves_perform {operation : Operation}
    (accepted : (perform operation station).answer.isRefusal = false) :
    Saves operation.settings station (perform operation station).state := by
  cases operation with
  | write object priority value =>
      rw [perform, Activity.run_map] at accepted ⊢
      exact saves_written intact (fun _ _ _ => PriorityLadder.write_keeps) accepted
  | relinquish object priority =>
      rw [perform, Activity.run_map] at accepted ⊢
      exact saves_written intact (fun _ _ _ => PriorityLadder.write_keeps) accepted
  | setRelinquishDefault object value => exact saves_setRelinquishDefault intact accepted
  | setOutOfService object value => exact saves_setOutOfService intact accepted
  | setRecipients number entries => exact saves_setRecipients intact accepted
  | setReliability | acknowledge | tick | sweep | setClock => exact saves_nothing intact rfl

end Perform

/-! ## The store over a run -/

/-- A setting was saved by some operation. -/
def WasSaved (steps : List StationStep) (setting : Setting) : Prop :=
  ∃ step ∈ steps, step.answer.1.isRefusal = false ∧ setting ∈ step.operation.settings

/-- A step adds what its operation saves, if it is accepted. -/
theorem wasSaved_concat_iff {steps : List StationStep} {step : StationStep} {setting : Setting} :
    WasSaved (steps ++ [step]) setting ↔ WasSaved steps setting ∨
      (step.answer.1.isRefusal = false ∧ setting ∈ step.operation.settings) := by
  simp [WasSaved, or_and_right, exists_or]

/-- The store holds what is set, of all settings that were ever saved, and nothing else. -/
structure Mirrors (steps : List StationStep) (station : Station) : Prop where
  intact : station.settings.fault = none
  held : ∀ setting, WasSaved steps setting -> ∃ value, station.current? setting = some value ∧
    station.settings.get? setting.key = some value
  absent : ∀ key, (∀ setting, WasSaved steps setting -> setting.key ≠ key) ->
    station.settings.get? key = none

/-- The store stays a mirror: an accepted operation saves what it sets, under names that no
other settings have, and a refused one does nothing. -/
theorem Mirrors.step {steps : List StationStep} {station : Station} (mirrors : Mirrors steps station)
    (operation : Operation) :
    Mirrors (steps ++ [stepOf carryOut station operation]) (carryOut station operation).2 := by
  cases refusal : (perform operation station).answer.isRefusal with
  | true =>
      obtain ⟨same, -⟩ := perform_of_refused refusal
      have still (setting : Setting) :
          WasSaved (steps ++ [stepOf carryOut station operation]) setting ↔
            WasSaved steps setting := by
        rw [wasSaved_concat_iff]
        refine or_iff_left fun now => ?_
        cases now.1.symm.trans refusal
      change Mirrors _ (perform operation station).state
      rw [same]
      exact ⟨mirrors.intact, fun setting saved => mirrors.held setting ((still setting).mp saved),
        fun key unnamed => mirrors.absent key fun setting saved =>
          unnamed setting ((still setting).mpr saved)⟩
  | false =>
      -- What is saved now is current by itself. What was saved before stays current and stays
      -- where it is, because no other setting has its name.
      have saves := saves_perform mirrors.intact refusal
      refine ⟨saves.stores.intact, fun setting saved => ?_, fun key unnamed => ?_⟩
      · by_cases now : setting ∈ operation.settings
        · exact saves.stores.saved setting now
        · have before : WasSaved steps setting :=
            (wasSaved_concat_iff.mp saved).resolve_right fun later => now later.2
          obtain ⟨value, isCurrent, isHeld⟩ := mirrors.held setting before
          have apart : ∀ other ∈ operation.settings, other.key ≠ setting.key :=
            fun other member same => now (Setting.key_injective same ▸ member)
          exact ⟨value, (saves.unchanged setting now).trans isCurrent,
            (saves.stores.others _ apart).trans isHeld⟩
      · have later : ∀ setting ∈ operation.settings, setting.key ≠ key := fun setting member =>
          unnamed setting (wasSaved_concat_iff.mpr (.inr ⟨refusal, member⟩))
        refine (saves.stores.others key later).trans (mirrors.absent key fun setting saved => ?_)
        exact unnamed setting (wasSaved_concat_iff.mpr (.inl saved))

/-- A station that starts with an empty store has a mirror in it after every run. -/
theorem mirrors_after {station : Station} (empty : station.settings = .empty)
    (operations : List Operation) :
    Mirrors (station.history operations) (station.after operations) := by
  refine history_invariant Mirrors ⟨?_, ?_, ?_⟩ (fun _ _ operation mirrors =>
    mirrors.step operation) operations
  · rw [empty]
    rfl
  · rintro setting ⟨step, member, -⟩
    cases member
  · intro key _
    rw [empty]
    rfl

/-! ## What the store says -/

/-- Some operation of a kind was accepted. -/
def WasAccepted (steps : List StationStep) (kind : Operation -> Prop) : Prop :=
  ∃ step ∈ steps, step.answer.1.isRefusal = false ∧ kind step.operation

/-- A name is in the store if and only if an operation of some kind was accepted, and what is
saved under it is what is set at the time. -/
structure IsKept (steps : List StationStep) (station : Station) (key : String)
    (kind : Operation -> Prop) (current : Option Json) : Prop where
  present : (station.settings.get? key).isSome = true ↔ WasAccepted steps kind
  latest : ∀ saved ∈ station.settings.get? key, current = some saved

/-- A setting is in the store exactly if an operation that saves it was accepted, and then as it
is at the time. -/
theorem Mirrors.isKept {steps : List StationStep} {station : Station}
    (mirrors : Mirrors steps station) (setting : Setting) {kind : Operation -> Prop}
    (saves : ∀ operation : Operation, setting ∈ operation.settings ↔ kind operation) :
    IsKept steps station setting.key kind (station.current? setting) := by
  have accepted : WasSaved steps setting ↔ WasAccepted steps kind := by
    simp only [WasSaved, WasAccepted, saves]
  by_cases saved : WasSaved steps setting
  · obtain ⟨value, isCurrent, isHeld⟩ := mirrors.held setting saved
    rw [isCurrent]
    refine ⟨?_, ?_⟩
    · simpa [isHeld] using accepted.mp saved
    · simp [isHeld]
  · have nothing := mirrors.absent setting.key fun other otherSaved same =>
      saved (Setting.key_injective same ▸ otherSaved)
    refine ⟨?_, ?_⟩
    · simpa [nothing] using mt accepted.mpr saved
    · simp [nothing]

/-- The store against all that was asked of the station, and against what it is like now. -/
structure StoreMirrors (steps : List StationStep) (station : Station) : Prop where
  /-- The commanded values of an object are saved with every command to it. -/
  priorityArray : ∀ object, IsKept steps station (priorityArrayKey object)
    (fun operation => ∃ asked, operation.command? = some (object, asked))
    ((station.ladder? object).map fun ladder => toJson ladder.slots)
  relinquishDefault : ∀ object, IsKept steps station (relinquishDefaultKey object)
    (fun operation => ∃ value, operation = .setRelinquishDefault object value)
    ((station.ladder? object).map fun ladder => toJson ladder.relinquishDefault)
  outOfService : ∀ object, IsKept steps station (outOfServiceKey object)
    (fun operation => ∃ value, operation = .setOutOfService object value)
    ((station.ladder? object).map fun ladder => toJson ladder.outOfService)
  /-- The slots of a class are saved as they are, empty ones among them. -/
  recipientList : ∀ number, IsKept steps station (recipientListKey number)
    (fun operation => ∃ entries, operation = .setRecipients number entries)
    ((station.registry.lookup? number).map fun group => toJson group.slots)
  nothingElse : ∀ key ∈ station.settings.keys,
    (∃ object, key = priorityArrayKey object ∨ key = relinquishDefaultKey object ∨
      key = outOfServiceKey object) ∨ ∃ number, key = recipientListKey number

/-- The store of settings mirrors the station. Whatever a station with an empty store is asked to
do, afterwards the store holds the commanded values, the default and the service flag of every
object and the recipient list of every class as they are, as far as they were ever set by an
accepted operation, and nothing else. -/
theorem store_mirrors_station {station : Station} (empty : station.settings = .empty)
    (operations : List Operation) :
    StoreMirrors (station.history operations) (station.after operations) := by
  have mirrors := mirrors_after empty operations
  refine ⟨fun object => ?_, fun object => ?_, fun object => ?_, fun number => ?_, ?_⟩
  · refine mirrors.isKept (.priorityArray object) fun operation => ?_
    cases operation <;> simp [Operation.settings, Operation.command?, eq_comm]
  · refine mirrors.isKept (.relinquishDefault object) fun operation => ?_
    cases operation <;> simp [Operation.settings, eq_comm]
  · refine mirrors.isKept (.outOfService object) fun operation => ?_
    cases operation <;> simp [Operation.settings, eq_comm]
  · refine mirrors.isKept (.recipientList number) fun operation => ?_
    cases operation <;> simp [Operation.settings, eq_comm]
  · intro key listed
    have present := SettingsStore.mem_keys_iff.mp listed
    by_contra other
    rw [mirrors.absent key] at present
    · cases present
    · rintro setting - rfl
      refine other ?_
      cases setting with
      | priorityArray object => exact .inl ⟨object, .inl rfl⟩
      | relinquishDefault object => exact .inl ⟨object, .inr (.inl rfl)⟩
      | outOfService object => exact .inl ⟨object, .inr (.inr rfl)⟩
      | recipientList number => exact .inr ⟨number, rfl⟩

/-- The fan is switched on and taken out of service. A command at the reserved priority is
refused, and a default is never set. -/
def fanCommands : List Operation :=
  [.write fan 8 (.value (.binary .active)), .setOutOfService fan true, .write fan 6 .null]

/-- The service flag of the fan is saved, and no default is. -/
theorem fanRoom_store :
    fanRoom.settings = .empty ∧
      (fanRoom.after fanCommands).settings.get? (outOfServiceKey fan) = some (toJson true) ∧
      (fanRoom.after fanCommands).settings.get? (relinquishDefaultKey fan) = none := by
  have empty : fanRoom.settings = .empty := rfl
  have mirrors := store_mirrors_station empty fanCommands
  refine ⟨empty, ?_, ?_⟩
  · have switches : WasAccepted (fanRoom.history fanCommands)
        fun operation => ∃ value, operation = .setOutOfService fan value :=
      ⟨stepOf carryOut (fanRoom.after [.write fan 8 (.value (.binary .active))])
        (.setOutOfService fan true), List.mem_of_getElem? (i := 1) rfl, rfl, true, rfl⟩
    obtain ⟨saved, held⟩ :=
      Option.isSome_iff_exists.mp ((mirrors.outOfService fan).present.mpr switches)
    have current := (mirrors.outOfService fan).latest saved held
    rw [held, ← current]
    rfl
  · rw [← Option.not_isSome_iff_eq_none, (mirrors.relinquishDefault fan).present]
    rintro ⟨step, member, -, value, asks⟩
    rcases List.mem_cons.mp member with rfl | member
    · cases asks
    rcases List.mem_cons.mp member with rfl | member
    · cases asks
    cases List.mem_singleton.mp member
    cases asks

end Station

end Annunciator
