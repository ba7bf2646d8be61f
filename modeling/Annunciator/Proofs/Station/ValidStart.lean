import Annunciator.Proofs.RecipientLists
import Annunciator.Proofs.Station.Furnishing
import Annunciator.Proofs.Station.Locality
import Annunciator.Proofs.ValidConfigurations

/-!
# Starting from a valid configuration

What is checked when a configuration is loaded is what could go wrong later in parts of the
startup that do not check it again: a class that is filled is known and its list fits, and a
point that is added finds its place free. What remains are the errors of single points. The
startup comes to its end if and only if every point can be set up and accepts its first
commands, and then the station consists of exactly what was configured.
-/

namespace Annunciator

/-! ## Filling the classes -/

/-- Where no two classes share a number, every class is found under its own. -/
theorem Configuration.lookup?_registry {configuration : Configuration}
    (numbers : (configuration.classes.map (·.number)).Nodup) (number : UInt32) :
    configuration.registry.lookup? number =
      (configuration.classes.find? (·.number = number)).map (·.group) := by
  suffices inserted : ∀ (classes : List ClassEntry) (registry : ClassRegistry),
      (classes.map (·.number)).Nodup ->
      (classes.foldl (fun registry entry => registry.insert entry.group) registry).lookup? number =
        ((classes.find? (·.number = number)).map (·.group)).or (registry.lookup? number) by
    rw [Configuration.registry, inserted _ _ numbers]
    exact Option.or_none
  intro classes
  induction classes with
  | nil => exact fun _ _ => rfl
  | cons entry rest inductionHypothesis =>
      intro registry distinct
      obtain ⟨apart, later⟩ := List.nodup_cons.mp distinct
      rw [List.foldl_cons, inductionHypothesis _ later, ClassRegistry.lookup?,
        ClassRegistry.insert, SortedMap.get?_insert]
      by_cases here : entry.number = number
      · have absent : rest.find? (·.number = number) = none := by
          refine List.find?_eq_none.mpr fun other member => ?_
          rw [decide_eq_true_eq, ← here]
          exact fun same => apart (List.mem_map.mpr ⟨other, member, same⟩)
        rw [absent, List.find?_cons_of_pos (by simpa using here)]
        exact if_pos here
      · rw [List.find?_cons_of_neg (by simpa using here)]
        congr 1
        exact if_neg here

namespace Station

/-- A known class that is given a list that fits has it in its slots from then on. -/
theorem setRecipients_listed {station : Station} {number : UInt32} {group : NotificationClass}
    (known : station.registry.lookup? number = some group) {entries : List Destination}
    (fits : entries.length ≤ recipientCapacity) :
    ∃ update, (setRecipients number entries station).answer = .ok update ∧
      ∀ other, (setRecipients number entries station).state.registry.lookup? other =
        if number = other then some { group with slots := entries.map slotFor }
        else station.registry.lookup? other := by
  obtain ⟨update, replaced⟩ := ClassRegistry.exists_replaced known fits
  rw [run_setRecipients replaced]
  exact ⟨update, rfl, ClassRegistry.lookup?_relisted known entries⟩

/-- A class of a configuration while the lists of some classes are filled already. -/
def groupOnce (filled : List ClassEntry) (entry : ClassEntry) : NotificationClass :=
  { entry.group with slots := if entry ∈ filled then entry.recipients.map slotFor else [] }

/-- The classes are those of the configuration, and the lists of some of them are filled. -/
def IsListed (configuration : Configuration) (filled : List ClassEntry) (station : Station) :
    Prop :=
  ∀ number, station.registry.lookup? number =
    (configuration.classes.find? (·.number = number)).map (groupOnce filled)

/-- No list of a valid configuration is refused. -/
theorem ends_fillRecipients {configuration : Configuration} (valid : configuration.IsValid)
    (clock : Timestamp) (bus : EventBus) :
    Ends (fillRecipients configuration) (vacant configuration clock bus)
      (fun _ after => IsListed configuration configuration.classes after) (fun _ => False) := by
  refine Ends.forM (IsListed configuration) ?_ ?_
  · exact fun number => Configuration.lookup?_registry valid.numbers number
  · intro filled entry rest before split listed
    have member : entry ∈ configuration.classes := by rw [split]; simp
    have here : configuration.classes.find? (·.number = entry.number) = some entry :=
      (find?_key_iff valid.numbers).mpr ⟨member, rfl⟩
    have known := listed entry.number
    rw [here, Option.map_some] at known
    obtain ⟨update, answered, lookups⟩ := setRecipients_listed known (valid.lists entry member)
    rw [ends_require_iff, answered]
    -- Numbers are distinct, so the entry that is filled now is the only one with its number.
    intro number
    rw [lookups]
    split
    · next same =>
        subst same
        rw [here, Option.map_some]
        simp [groupOnce]
    · next differ =>
        rw [listed number]
        refine Option.map_congr fun other found => ?_
        have apart : other ≠ entry := by
          rintro rfl
          exact differ ((find?_key_iff valid.numbers).mp found).2
        simp [groupOnce, apart]

/-! ## Adding the points -/

/-- The points of a valid configuration find their places. -/
theorem ends_furnish {configuration : Configuration} (valid : configuration.IsValid)
    (station : Station) :
    Ends (furnish configuration) station
      (fun _ after => ∃ tables, configuration.tables = .ok tables ∧ after = { station with tables })
      (fun error => ∃ refusal, error = .description refusal ∧
        ∃ entry ∈ configuration.points, entry.build = .error refusal) := by
  have new : AreNew ∅ := fun _ member => nomatch member
  rw [Ends, furnish, Configuration.tables]
  rcases placeAll_cases new valid.objects fun _ _ => rfl with
    ⟨after, placed⟩ | ⟨refusal, refused, fails⟩
  · rw [placed]
    exact ⟨after.values, rfl, rfl⟩
  · rw [fails]
    exact ⟨refusal, rfl, refused⟩

end Station

/-! ## Giving the first commands -/

/-- Give a point a first command. -/
def Point.begin (point : Point) (first : CommandEntry) : Except ProtocolError Point :=
  (point.command (·.write first.priority (.value first.value))).map Prod.snd

/-- Give a point several first commands, one after the other. -/
def Point.beginAll (point : Point) (commands : List CommandEntry) : Except ProtocolError Point :=
  commands.foldlM Point.begin point

/-- The point of an entry can be set up, and accepts its first commands in order. -/
def PointEntry.IsAccepted (entry : PointEntry) : Prop :=
  ∃ point, entry.build = .ok point ∧ ∃ ready, point.beginAll entry.commands = .ok ready

namespace Station

/-- A station in which only the point of one object has changed, among points and classes. -/
structure OnlyPoint (object : ObjectId) (before : Station) (point : Point) (after : Station) :
    Prop where
  there : after.point? object = some point
  others : ∀ other, object ≠ other -> after.point? other = before.point? other
  layout : after.layout = before.layout
  registry : after.registry = before.registry

/-- To change one point twice is still to change this point only. -/
theorem OnlyPoint.trans {object : ObjectId} {first middle last : Station} {point next : Point}
    (earlier : OnlyPoint object first point middle) (later : OnlyPoint object middle next last) :
    OnlyPoint object first next last where
  there := later.there
  others other differ := (later.others other differ).trans (earlier.others other differ)
  layout := later.layout.trans earlier.layout
  registry := later.registry.trans earlier.registry

/-- A first command is accepted if its point accepts it. -/
theorem ends_write {station : Station} {object : ObjectId} {point : Point}
    (known : station.point? object = some point) (first : CommandEntry) :
    Ends (.require .command (write object first.priority (.value first.value))) station
      (fun _ after => ∃ next, point.begin first = .ok next ∧ OnlyPoint object station next after)
      (fun error => ∃ refusal, error = .command refusal ∧ point.begin first = .error refusal) := by
  rw [ends_require_iff, write, run_command known, Point.begin, Point.command]
  cases point.ladder.write first.priority (.value first.value) with
  | error refusal => exact ⟨refusal, rfl, rfl⟩
  | ok accepted =>
      obtain ⟨result, ladder⟩ := accepted
      obtain ⟨⟨output, settings, same⟩, -⟩ := recording_recordCommand object result ladder
        (station.setPoint object { point with ladder })
      refine ⟨{ point with ladder }, rfl, ?_⟩
      dsimp only
      rw [same]
      have points (other : ObjectId) := station.point?_setPoint object other { point with ladder }
      refine ⟨?_, fun other differ => ?_, layout_setPoint known rfl, rfl⟩
      · exact (points object).trans (by rw [if_pos rfl, known, Option.map_some])
      · exact (points other).trans (if_neg differ)

/-- The first commands of an object are accepted if its point accepts them in order. -/
theorem ends_writeAll {station : Station} {object : ObjectId} {built : Point}
    (known : station.point? object = some built) (commands : List CommandEntry) :
    Ends (commands.forM fun first =>
        .require .command (write object first.priority (.value first.value))) station
      (fun _ after => ∃ ready, built.beginAll commands = .ok ready ∧
        OnlyPoint object station ready after)
      (fun error => ∃ refusal, error = .command refusal ∧
        built.beginAll commands = .error refusal) := by
  refine Ends.forM (fun done after => ∃ current, built.beginAll done = .ok current ∧
    OnlyPoint object station current after) ?_ ?_
  · exact ⟨built, rfl, known, fun _ _ => rfl, rfl, rfl⟩
  · rintro done first rest before split ⟨current, reached, only⟩
    refine (ends_write only.there first).imp ?_ ?_
    · rintro _ after ⟨next, accepted, onlyNext⟩
      refine ⟨next, ?_, only.trans onlyNext⟩
      rw [Point.beginAll, List.foldlM_append, ← Point.beginAll, reached]
      exact (bind_pure (current.begin first)).trans accepted
    · rintro error ⟨refusal, same, refused⟩
      refine ⟨refusal, same, ?_⟩
      rw [Point.beginAll, split, List.foldlM_append, ← Point.beginAll, reached]
      change List.foldlM Point.begin current (first :: rest) = _
      rw [List.foldlM_cons, refused]
      rfl

/-- Every entry has its new point, which takes the commands for its object. -/
def HasBuilt (configuration : Configuration) (station : Station) : Prop :=
  ∀ entry ∈ configuration.points, ∃ built, entry.build = .ok built ∧
    station.point? entry.object = some built

/-- A station that has given the first commands of some entries. -/
structure Underway (configuration : Configuration) (start : Station) (done : List PointEntry)
    (after : Station) : Prop where
  accepted : ∀ entry ∈ done, entry.IsAccepted
  /-- The points of the other entries are as they were. -/
  waiting : ∀ entry ∈ configuration.points, entry ∉ done ->
    after.point? entry.object = start.point? entry.object
  layout : after.layout = start.layout
  registry : after.registry = start.registry

/-- The first commands are accepted if and only if every point accepts its own. -/
theorem ends_giveCommands {configuration : Configuration} (valid : configuration.IsValid)
    {station : Station} (hasBuilt : station.HasBuilt configuration) :
    Ends (giveCommands configuration) station
      (fun _ after => Underway configuration station configuration.points after)
      (fun error => (∃ refusal, error = .command refusal) ∧
        ∃ entry ∈ configuration.points, ¬ entry.IsAccepted) := by
  refine Ends.forM (Underway configuration station) ?_ ?_
  · exact ⟨by simp, fun _ _ _ => rfl, rfl, rfl⟩
  · intro done entry rest before split underway
    have member : entry ∈ configuration.points := by rw [split]; simp
    have fresh : entry ∉ done := by
      have distinct := split ▸ valid.objects.of_map
      exact fun earlier => List.disjoint_of_nodup_append distinct earlier (List.mem_cons_self ..)
    obtain ⟨built, same, there⟩ := hasBuilt entry member
    have known := (underway.waiting entry member fresh).trans there
    refine (ends_writeAll known entry.commands).imp ?_ ?_
    · rintro _ after ⟨ready, reached, only⟩
      refine ⟨?_, ?_, only.layout.trans underway.layout, only.registry.trans underway.registry⟩
      · intro other listed
        rcases List.mem_append.mp listed with earlier | last
        · exact underway.accepted other earlier
        · cases List.mem_singleton.mp last
          exact ⟨built, same, ready, reached⟩
      · intro other listed absent
        rw [List.mem_append, List.mem_singleton, not_or] at absent
        have differ : entry.object ≠ other.object := fun sameObject =>
          absent.2 (List.inj_on_of_nodup_map valid.objects listed member sameObject.symm)
        exact (only.others _ differ).trans (underway.waiting other listed absent.1)
    · rintro error ⟨refusal, isCommand, refused⟩
      refine ⟨⟨refusal, isCommand⟩, entry, member, ?_⟩
      rintro ⟨point, again, ready, reached⟩
      cases same.symm.trans again
      cases refused.symm.trans reached

/-! ## The whole startup -/

/-- A station consists of what was configured. -/
structure IsSetUp (configuration : Configuration) (station : Station) : Prop where
  /-- The objects that take commands are the configured ones. -/
  commanded : ∀ object, (station.point? object).isSome = true ↔
    object ∈ configuration.points.map (·.object)
  /-- So are the objects that report. -/
  reporting : station.objects.Perm (configuration.points.map (·.object))
  /-- So are the objects that acknowledgments find. -/
  acknowledged : ∀ request, (perform (.acknowledge request) station).answer =
    .notAcked (.rejected .unknownObject) ↔
      request.object ∉ configuration.points.map (·.object)
  /-- Every class has its recipients in its slots, with empty slots for those that cannot exist,
  and there are no other classes. -/
  classes : ∀ number, station.registry.lookup? number =
    (configuration.classes.find? (·.number = number)).map fun entry =>
      { entry.group with slots := entry.recipients.map fun destination =>
          if destination.recipient.isValid then some destination else none }

/-- The outcome of a startup that only single points can make fail. -/
structure StartsUp (configuration : Configuration)
    (outcome : Outcome Station (Except StartupError Unit)) : Prop where
  /-- No recipient list is refused. -/
  listed : ∀ refusal, outcome.answer ≠ .error (.recipients refusal)
  /-- No point is added to a table of another type, or where there is one already. -/
  placed : ∀ refusal, outcome.answer ≠ .error (.placement refusal)
  succeeds : outcome.answer = .ok () ↔ ∀ entry ∈ configuration.points, entry.IsAccepted
  setUp : outcome.answer = .ok () -> outcome.state.IsSetUp configuration

/-- A furnished station whose classes are filled is set up, and stays so while only points
change. -/
theorem isSetUp_of_furnished {configuration : Configuration} {furnished station : Station}
    (listed : IsListed configuration configuration.classes furnished)
    (tables : configuration.tables = .ok furnished.tables)
    (layout : station.layout = furnished.layout)
    (registry : station.registry = furnished.registry) : station.IsSetUp configuration := by
  obtain ⟨new, single⟩ := isNew_tables tables
  have assembled : furnished.IsAssembled := ⟨isSingle_iff.mpr single, new⟩
  have inOrder : station.InOrder := by
    refine ⟨?_, ?_⟩
    · rw [IsProper, layout]
      exact assembled.inOrder.proper
    · rw [IsSingle, layout]
      exact assembled.single
  have sameObjects : station.objects = furnished.objects := by
    rw [objects_eq, layout, ← objects_eq]
  -- The objects that can report are the configured ones, and each part says so in its own way.
  have configured : ∀ object,
      object ∈ station.objects ↔ object ∈ configuration.points.map (·.object) := by
    intro object
    rw [sameObjects, ← assembled.inOrder.isSome_point?_iff, isSome_point?_of_tables tables]
  refine ⟨?_, ?_, ?_, ?_⟩
  · intro object
    rw [inOrder.isSome_point?_iff, configured]
  · have distinct : station.objects.Nodup := by
      refine (objects_ascending inOrder.proper).imp ?_
      rintro left right below rfl
      exact KeyOrder.irreflexive left below
    exact (List.perm_ext_iff_of_nodup distinct (point?_of_tables tables).1).mpr configured
  · intro request
    rw [answer_acknowledge_unknown_iff inOrder.single, ← configured,
      ← inOrder.isSome_point?_iff, Bool.not_eq_true]
  · intro number
    rw [registry, listed]
    refine Option.map_congr fun entry found => ?_
    rw [groupOnce, if_pos (List.mem_of_find?_eq_some found)]
    rfl

/-- Every part of the startup of a valid configuration ends well, except for points that cannot
be set up or do not accept their commands. -/
theorem ends_prepare {configuration : Configuration} (valid : configuration.IsValid)
    (clock : Timestamp) (bus : EventBus) :
    Ends (prepare configuration) (vacant configuration clock bus)
      (fun _ after => (∀ entry ∈ configuration.points, entry.IsAccepted) ∧
        after.IsSetUp configuration)
      (fun error => ((∃ refusal, error = .description refusal) ∨
          ∃ refusal, error = .command refusal) ∧
        ∃ entry ∈ configuration.points, ¬ entry.IsAccepted) := by
  rw [prepare]
  refine Ends.bind ((ends_fillRecipients valid clock bus).imp (fun _ _ => id) nofun) ?_
  intro _ filled listed
  refine Ends.bind ((ends_furnish valid filled).imp (fun _ _ => id) ?_) ?_
  · rintro error ⟨refusal, same, entry, member, refused⟩
    refine ⟨.inl ⟨refusal, same⟩, entry, member, ?_⟩
    rintro ⟨point, built, -⟩
    cases refused.symm.trans built
  · rintro _ furnished ⟨tables, there, rfl⟩
    have stillListed :
        IsListed configuration configuration.classes { filled with tables } := listed
    have hasBuilt : HasBuilt configuration { filled with tables } := (point?_of_tables there).2
    refine (ends_giveCommands valid hasBuilt).imp ?_ ?_
    · intro _ after underway
      exact ⟨underway.accepted,
        isSetUp_of_furnished stillListed there underway.layout underway.registry⟩
    · rintro error ⟨isCommand, unaccepted⟩
      exact ⟨.inr isCommand, unaccepted⟩

/-- A valid configuration starts up unless a point of it cannot be set up or does not accept its
first commands, and nothing else of it is refused on the way. The station that comes of it
consists of exactly what was configured. -/
theorem valid_configuration_starts {configuration : Configuration}
    (valid : configuration.flaw? = none) (clock : Timestamp) (bus : EventBus) :
    StartsUp configuration ((prepare configuration).run (vacant configuration clock bus)) := by
  have ends := ends_prepare (Configuration.flaw?_eq_none_iff.mp valid) clock bus
  rw [Ends] at ends
  split at ends
  · next answer answered =>
      obtain ⟨accepted, setUp⟩ := ends
      exact ⟨by simp [answered], by simp [answered], by simpa [answered] using accepted,
        fun _ => setUp⟩
  · next error failed =>
      obtain ⟨causes, entry, member, unaccepted⟩ := ends
      refine ⟨?_, ?_, ?_, by simp [failed]⟩
      · rcases causes with ⟨refusal, rfl⟩ | ⟨refusal, rfl⟩ <;> simp [failed]
      · rcases causes with ⟨refusal, rfl⟩ | ⟨refusal, rfl⟩ <;> simp [failed]
      · simpa [failed] using ⟨entry, member, unaccepted⟩

/-- A fan that runs from the start, and a class whose first recipient cannot exist. -/
def watchtower : Configuration :=
  { Configuration.standard with
    classes := [⟨1, .replicate 1, .none, [.always (.device ⟨0⟩), .always (.device ⟨12⟩)]⟩]
    points := [fanEntry 2 [⟨8, .binary .active⟩]] }

/-- The fan accepts its command, and the slot of the impossible recipient stays empty. -/
theorem watchtower_starts :
    watchtower.flaw? = none ∧
      ((prepare watchtower).run (vacant watchtower Timestamp.noon ⟨8, none⟩)).answer = .ok () ∧
      (((prepare watchtower).run (vacant watchtower Timestamp.noon ⟨8, none⟩)).state.registry.lookup?
        1).map (·.slots) = some [none, some (.always (.device ⟨12⟩))] := by
  have valid : watchtower.flaw? = none := by decide
  have starts := valid_configuration_starts valid Timestamp.noon ⟨8, none⟩
  have answered : ((prepare watchtower).run
      (vacant watchtower Timestamp.noon ⟨8, none⟩)).answer = .ok () := by
    refine starts.succeeds.mpr fun entry member => ?_
    cases List.mem_singleton.mp member
    exact ⟨_, rfl, _, rfl⟩
  refine ⟨valid, answered, ?_⟩
  rw [(starts.setUp answered).classes]
  decide

end Station

end Annunciator
