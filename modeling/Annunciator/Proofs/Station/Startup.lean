import Annunciator.Proofs.Station.ValueChanges
import Annunciator.Station.Startup

/-!
# Started stations

A station that was started is one that was set up with empty recipient lists and without
points, was given its recipients, was furnished with new points, and was given its first
commands. So what holds of every run from such a beginning holds of started stations.
-/

namespace Annunciator.Station

/-! ## Successful startups -/

section Succeeds

variable {First Last Item : Type}

/-- A part of the startup comes to its end, with an answer and a station after it. -/
def Succeeds (startup : Startup Last) (station : Station) (answer : Last) (after : Station) :
    Prop :=
  (startup.run station).answer = .ok answer ∧ (startup.run station).state = after

/-- An answer alone succeeds, with the station as it is. -/
theorem succeeds_pure_iff {station after : Station} {answer given : Last} :
    Succeeds (pure answer) station given after ↔ answer = given ∧ station = after := by
  simp [Succeeds, ExceptT.run_pure]

/-- Two parts succeed one after the other. -/
theorem succeeds_bind_iff {first : Startup First} {next : First -> Startup Last}
    {station after : Station} {answer : Last} :
    Succeeds (first >>= next) station answer after ↔
      ∃ between middle, Succeeds first station between middle ∧
        Succeeds (next between) middle answer after := by
  rw [Succeeds, ExceptT.run_bind, Activity.run_bind]
  cases done : (first.run station).answer with
  | error error => simp [Succeeds, done]
  | ok between => simp [Succeeds, done]

/-- Parts that each make some operations make all of them one after the other. -/
theorem after_of_forM {items : List Item} {act : Item -> Startup Unit}
    {operations : Item -> List Operation}
    (each : ∀ item station after, Succeeds (act item) station () after ->
      after = station.after (operations item)) {station after : Station}
    (succeeds : Succeeds (items.forM act) station () after) :
    after = station.after (items.flatMap operations) := by
  induction items generalizing station with
  | nil => exact (succeeds_pure_iff.mp succeeds).2.symm
  | cons item rest inductionHypothesis =>
      obtain ⟨_, middle, first, later⟩ := succeeds_bind_iff.mp succeeds
      rw [inductionHypothesis later, each item station middle first, List.flatMap_cons]
      exact (stateAfter_append carryOut station _ _).symm

/-- A required activity succeeds if it is not refused. -/
theorem succeeds_require {Refusal : Type} {cause : Refusal -> StartupError}
    {activity : Activity Station (Except Refusal First)} {station after : Station}
    (succeeds : Succeeds (Startup.require cause activity) station () after) :
    (activity station).state = after := by
  obtain ⟨answered, rfl⟩ := succeeds
  rw [Startup.require, ExceptT.run_mk, Activity.run_bind] at answered ⊢
  cases granted : (activity station).answer with
  | ok => simp
  | error refusal => simp [granted] at answered

end Succeeds

/-! ## How a startup ends -/

section Ends

variable {First Last Item : Type} {station : Station} {ill weaker : StartupError -> Prop}

/-- A part of the startup ends well, with something that holds of its answer and of the station
after it, or with an error of some kind. -/
def Ends (startup : Startup Last) (station : Station) (well : Last -> Station -> Prop)
    (ill : StartupError -> Prop) : Prop :=
  match (startup.run station).answer with
  | .ok answer => well answer (startup.run station).state
  | .error error => ill error

/-- What is said of an end may be weakened on both sides. -/
theorem Ends.imp {startup : Startup Last} {well better : Last -> Station -> Prop}
    (ends : Ends startup station well ill)
    (improves : ∀ answer after, well answer after -> better answer after)
    (weakens : ∀ error, ill error -> weaker error) : Ends startup station better weaker := by
  rw [Ends] at ends ⊢
  split at ends
  · exact improves _ _ ends
  · exact weakens _ ends

/-- One part goes on where the other one ended well. -/
theorem Ends.bind {first : Startup First} {next : First -> Startup Last}
    {between : First -> Station -> Prop} {well : Last -> Station -> Prop}
    (ends : Ends first station between ill)
    (goesOn : ∀ answer middle, between answer middle -> Ends (next answer) middle well ill) :
    Ends (first >>= next) station well ill := by
  rw [Ends] at ends ⊢
  rw [ExceptT.run_bind, Activity.run_bind]
  split at ends
  · next answer answered =>
      rw [answered]
      exact goesOn _ _ ends
  · next error failed =>
      rw [failed]
      exact ends

/-- What holds before all items, and is kept from one item to the next, holds after all. -/
theorem Ends.forM {items : List Item} {act : Item -> Startup Unit}
    (kept : List Item -> Station -> Prop) (start : kept [] station)
    (each : ∀ done item rest before, items = done ++ item :: rest -> kept done before ->
      Ends (act item) before (fun _ after => kept (done ++ [item]) after) ill) :
    Ends (items.forM act) station (fun _ after => kept items after) ill := by
  suffices remaining : ∀ rest done before, items = done ++ rest -> kept done before ->
      Ends (rest.forM act) before (fun _ after => kept items after) ill from
    remaining items [] station rfl start
  -- By induction on the items that remain, while those that are done pile up.
  intro rest
  induction rest with
  | nil =>
      intro done before split holds
      rw [List.append_nil] at split
      subst split
      exact holds
  | cons item rest inductionHypothesis =>
      intro done before split holds
      refine Ends.bind (each done item rest before split holds) fun _ middle stillHolds => ?_
      exact inductionHypothesis (done ++ [item]) middle (by rw [split, List.append_cons]) stillHolds

/-- A required activity ends well if it is not refused. -/
theorem ends_require_iff {Refusal : Type} {cause : Refusal -> StartupError}
    {activity : Activity Station (Except Refusal First)} {well : Unit -> Station -> Prop} :
    Ends (Startup.require cause activity) station well ill ↔
      match (activity station).answer with
      | .ok _ => well () (activity station).state
      | .error refusal => ill (cause refusal) := by
  rw [Ends, Startup.require, ExceptT.run_mk, Activity.run_bind]
  cases (activity station).answer <;> rfl

end Ends

/-! ## What a startup does -/

/-- The recipient lists that are filled at the start. -/
def listings (configuration : Configuration) : List Operation :=
  configuration.classes.map fun entry => .setRecipients entry.number entry.recipients

/-- The first commands. -/
def firstCommands (configuration : Configuration) : List Operation :=
  configuration.points.flatMap fun entry =>
    entry.commands.map fun first => .write entry.object first.priority (.value first.value)

/-- A station without recipients and points, on the network of a configuration. -/
def vacant (configuration : Configuration) (clock : Timestamp) (bus : EventBus) : Station :=
  { bare configuration.device clock bus with
    network := configuration.network
    registry := configuration.registry }

/-- Filling the recipient lists makes one operation for each class. -/
theorem after_fillRecipients {configuration : Configuration} {station after : Station}
    (succeeds : Succeeds (fillRecipients configuration) station () after) :
    after = station.after (listings configuration) := by
  rw [listings, List.map_eq_flatMap]
  refine after_of_forM ?_ succeeds
  intro entry station after listed
  rw [← succeeds_require listed]
  change _ = (perform (.setRecipients entry.number entry.recipients) station).state
  rw [perform, Activity.run_map]

/-- Furnishing puts the tables of the configuration in the place of the old ones. -/
theorem of_furnish {configuration : Configuration} {station after : Station}
    (succeeds : Succeeds (furnish configuration) station () after) :
    ∃ tables, configuration.tables = .ok tables ∧ after = { station with tables } := by
  rw [furnish] at succeeds
  split at succeeds
  · next tables there => exact ⟨tables, there, succeeds.2.symm⟩
  · cases succeeds.1

/-- The first commands are given as operations, entry by entry. -/
theorem after_giveCommands {configuration : Configuration} {station after : Station}
    (succeeds : Succeeds (giveCommands configuration) station () after) :
    after = station.after (firstCommands configuration) := by
  refine after_of_forM ?_ succeeds
  intro entry station after commanded
  rw [List.map_eq_flatMap]
  refine after_of_forM ?_ commanded
  intro first station after given
  rw [← succeeds_require given]
  change _ = (perform (.write entry.object first.priority (.value first.value)) station).state
  rw [perform, Activity.run_map, write]

/-- A started station is the vacant one after its listings, furnished, and after its first
commands. -/
theorem of_start {configuration : Configuration} {clock : Timestamp} {station : Station}
    {effects : List Effect} (started : start configuration clock = .ok (station, effects)) :
    ∃ bus tables, configuration.tables = .ok tables ∧
      station = after { after (vacant configuration clock bus) (listings configuration) with
        tables } (firstCommands configuration) := by
  rw [start] at started
  cases opened : EventBus.open? configuration.busCapacity.toNat with
  | none =>
      rw [opened] at started
      cases started
  | some bus =>
      rw [opened] at started
      have succeeds : Succeeds (prepare configuration) (vacant configuration clock bus) ()
          station := by
        dsimp only at started
        split at started
        · next answered =>
            cases started
            exact ⟨answered, rfl⟩
        · cases started
      obtain ⟨_, listed, fills, rest⟩ := succeeds_bind_iff.mp succeeds
      obtain ⟨_, furnished, furnishes, commands⟩ := succeeds_bind_iff.mp rest
      obtain ⟨tables, there, furnishing⟩ := of_furnish furnishes
      refine ⟨bus, tables, there, ?_⟩
      rw [after_giveCommands commands, furnishing, after_fillRecipients fills]

/-! ## New tables -/

theorem mapError_eq_ok_iff {Refusal Cause Result : Type} {cause : Refusal -> Cause}
    {outcome : Except Refusal Result} {result : Result} :
    outcome.mapError cause = .ok result ↔ outcome = .ok result := by
  cases outcome <;> simp [Except.mapError]

/-- Another new point leaves a table new. -/
theorem isNew_addEntry {table after : PointTable} {entry : PointEntry} (new : table.IsNew)
    (added : table.addEntry entry = .ok after) :
    after.IsNew ∧ after.objectType = table.objectType := by
  obtain ⟨point, built, inserted⟩ := bind_eq_ok_iff.mp added
  have accepted := mapError_eq_ok_iff.mp inserted
  have same := (PointTable.of_insert accepted).2
  refine ⟨⟨.insert new.filled accepted, fun other listed => ?_⟩, by rw [same]⟩
  rw [same] at listed
  obtain ⟨entry', member, rfl⟩ := List.mem_map.mp listed
  rcases SortedMap.mem_insertEntry member with rfl | old
  · exact ⟨entry.description, mapError_eq_ok_iff.mp built⟩
  · exact new.built _ (List.mem_map_of_mem old)

/-- Tables under their types, all of them new. -/
def AreNew (tables : SortedMap ObjectType PointTable) : Prop :=
  ∀ entry ∈ tables.entries, entry.2.IsNew ∧ entry.2.objectType = entry.1

/-- An entry adds a new point to a table, or to one that is made for it. -/
theorem AreNew.place {tables after : SortedMap ObjectType PointTable} {entry : PointEntry}
    (new : AreNew tables) (placed : Configuration.place tables entry = .ok after) :
    AreNew after := by
  obtain ⟨table, added, same⟩ := bind_eq_ok_iff.mp placed
  cases same
  have before : ((tables.get? entry.objectType).getD (.empty entry.objectType)).IsNew ∧
      ((tables.get? entry.objectType).getD (.empty entry.objectType)).objectType =
        entry.objectType := by
    cases found : tables.get? entry.objectType with
    | none => exact ⟨⟨.empty _, fun _ member => nomatch member⟩, rfl⟩
    | some table => exact new _ ((SortedMap.get?_eq_some_iff _ _ _).mp found)
  obtain ⟨stillNew, sameType⟩ := isNew_addEntry before.1 added
  intro other member
  rcases SortedMap.mem_insertEntry member with rfl | old
  · exact ⟨stillNew, sameType.trans before.2⟩
  · exact new other old

/-- Entries that are placed one after the other leave all tables new. -/
theorem AreNew.placeAll {tables after : SortedMap ObjectType PointTable}
    {entries : List PointEntry} (new : AreNew tables)
    (placed : entries.foldlM Configuration.place tables = .ok after) : AreNew after := by
  induction entries generalizing tables with
  | nil =>
      cases placed
      exact new
  | cons entry rest inductionHypothesis =>
      rw [List.foldlM_cons] at placed
      obtain ⟨next, here, later⟩ := bind_eq_ok_iff.mp placed
      exact inductionHypothesis (new.place here) later

/-- No two new tables are of one type. -/
theorem AreNew.nodup_types {tables : SortedMap ObjectType PointTable} (new : AreNew tables) :
    (tables.values.map (·.objectType)).Nodup := by
  have types : tables.values.map (·.objectType) = tables.keys := by
    rw [SortedMap.values, SortedMap.keys, List.map_map]
    exact List.map_congr_left fun entry member => (new entry member).2
  rw [types]
  refine tables.ascending.imp ?_
  rintro left right below rfl
  exact KeyOrder.irreflexive _ below

/-- The tables of a configuration are those of its entries, put in order. -/
theorem exists_placed {configuration : Configuration} {tables : List PointTable}
    (there : configuration.tables = .ok tables) :
    ∃ byType, configuration.points.foldlM Configuration.place ∅ = .ok byType ∧
      AreNew byType ∧ tables = byType.values := by
  obtain ⟨byType, placed, same⟩ := bind_eq_ok_iff.mp there
  cases same
  have none : AreNew ∅ := fun _ member => nomatch member
  exact ⟨byType, placed, none.placeAll placed, rfl⟩

/-- The tables of a configuration are new, and no two of them are of one type. -/
theorem isNew_tables {configuration : Configuration} {tables : List PointTable}
    (there : configuration.tables = .ok tables) :
    (∀ table ∈ tables, table.IsNew) ∧ (tables.map (·.objectType)).Nodup := by
  obtain ⟨byType, -, new, rfl⟩ := exists_placed there
  refine ⟨fun table member => ?_, new.nodup_types⟩
  obtain ⟨entry, listed, rfl⟩ := List.mem_map.mp member
  exact (new entry listed).1

/-- Every started station comes from an assembled one by a run. -/
theorem exists_assembled {configuration : Configuration} {clock : Timestamp} {station : Station}
    {effects : List Effect} (started : start configuration clock = .ok (station, effects)) :
    ∃ assembled : Station, assembled.IsAssembled ∧
      station = assembled.after (firstCommands configuration) := by
  obtain ⟨bus, tables, there, same⟩ := of_start started
  obtain ⟨new, single⟩ := isNew_tables there
  exact ⟨_, ⟨isSingle_iff.mpr single, new⟩, same⟩

end Annunciator.Station
