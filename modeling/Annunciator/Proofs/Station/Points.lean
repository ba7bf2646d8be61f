import Annunciator.Proofs.Point.Parts
import Annunciator.Proofs.Station.ActiveEvents
import Annunciator.Proofs.Station.Steps

/-!
# The points of a station

In a station with one table for every type, the point that takes the commands for an
object is also the one that reports about it. What an operation does to the point of an
object follows from what it does to the tables.
-/

namespace Annunciator

/-- Objects of one type are told apart by their numbers. -/
theorem ObjectId.number_ne {left right : ObjectId} (sameType : left.objectType = right.objectType)
    (differ : left ≠ right) : left.number ≠ right.number := by
  intro sameNumber
  cases left
  cases right
  cases sameType
  cases sameNumber
  exact differ rfl

/-- Where no two members share a key, a member is found under its own key. -/
theorem find?_key_iff {Item Key : Type} [DecidableEq Key] {items : List Item} {key : Item -> Key}
    (distinct : (items.map key).Nodup) {wanted : Key} {item : Item} :
    items.find? (fun item => key item = wanted) = some item ↔ item ∈ items ∧ key item = wanted := by
  constructor
  · intro found
    exact ⟨List.mem_of_find?_eq_some found, by simpa using List.find?_some found⟩
  · rintro ⟨member, rfl⟩
    induction items with
    | nil => cases member
    | cons first rest inductionHypothesis =>
        obtain ⟨apart, later⟩ := List.nodup_cons.mp distinct
        rcases List.mem_cons.mp member with rfl | there
        · exact List.find?_cons_of_pos (by simp)
        · have differ : key first ≠ key item := fun same =>
            apart (List.mem_map.mpr ⟨item, there, same.symm⟩)
          rw [List.find?_cons_of_neg (by simpa using differ)]
          exact inductionHypothesis later there

/-! ## Tables by type -/

section Tables

variable {tables : List PointTable} {objectType : ObjectType}

/-- Where no two tables are of one type, a table is found under its own type. -/
theorem find?_objectType_iff (single : (tables.map (·.objectType)).Nodup) {table : PointTable} :
    tables.find? (·.objectType = objectType) = some table ↔
      table ∈ tables ∧ table.objectType = objectType :=
  find?_key_iff single

/-- Where no two tables are of one type, the last table of a type is the first one. -/
theorem find?_reverse (single : (tables.map (·.objectType)).Nodup) :
    tables.reverse.find? (·.objectType = objectType) =
      tables.find? (·.objectType = objectType) := by
  have backwards : (tables.reverse.map (·.objectType)).Nodup := by
    rw [List.map_reverse, List.nodup_reverse]
    exact single
  ext table
  rw [find?_objectType_iff backwards, find?_objectType_iff single, List.mem_reverse]

/-- A change of the first table of a type is found under this type, and under no other. -/
theorem find?_modifyFirst {change : PointTable -> PointTable}
    (kept : ∀ table, tables.find? (·.objectType = objectType) = some table ->
      (change table).objectType = objectType) (other : ObjectType) :
    (modifyFirst (·.objectType = objectType) change tables).find? (·.objectType = other) =
      if objectType = other then (tables.find? (·.objectType = other)).map change
      else tables.find? (·.objectType = other) := by
  induction tables with
  | nil => simp [modifyFirst]
  | cons table rest inductionHypothesis =>
      rw [modifyFirst]
      split
      · next here =>
          have changed := kept table (List.find?_cons_of_pos here)
          rw [decide_eq_true_eq] at here
          by_cases same : objectType = other
          · simp [same ▸ changed, same ▸ here, same]
          · simp [changed, here, same]
      · next further =>
          have later := inductionHypothesis fun found first =>
            kept found (by rw [List.find?_cons_of_neg (by exact further), first])
          rw [decide_eq_true_eq] at further
          by_cases here : table.objectType = other
          · have differ : objectType ≠ other := fun same => further (here.trans same.symm)
            simp [here, differ]
          · rw [List.find?_cons_of_neg (by simpa using here), later,
              List.find?_cons_of_neg (by simpa using here)]

/-- A change of the first tables of all types is found under every type. -/
theorem find?_modifyReporters {change : PointTable -> PointTable}
    (kept : ∀ table, (change table).objectType = table.objectType) {seen : List ObjectType}
    (unseen : objectType ∉ seen) :
    (modifyReporters change seen tables).find? (·.objectType = objectType) =
      (tables.find? (·.objectType = objectType)).map change := by
  induction tables generalizing seen with
  | nil => rfl
  | cons table rest inductionHypothesis =>
      rw [modifyReporters]
      by_cases here : table.objectType = objectType
      · have fresh : ¬ seen.contains table.objectType = true := by simpa [here] using unseen
        rw [if_neg fresh, List.find?_cons_of_pos (by simpa [kept] using here),
          List.find?_cons_of_pos (by simpa using here), Option.map_some]
      · rw [List.find?_cons_of_neg (by simpa using here)]
        split
        · rw [List.find?_cons_of_neg (by simpa using here), inductionHypothesis unseen]
        · rw [List.find?_cons_of_neg (by simpa [kept] using here)]
          refine inductionHypothesis ?_
          rw [List.mem_cons, not_or]
          exact ⟨Ne.symm here, unseen⟩

end Tables

/-- A point can take the place of the one under its number, but adds none. -/
theorem PointTable.get?_set (table : PointTable) (number other : UInt32) (point : Point) :
    (table.set number point).get? other =
      if number = other then (table.get? other).map fun _ => point else table.get? other :=
  table.points.get?_modify number other _

/-- A tick reports every point where it is. -/
theorem PointTable.get?_tick (table : PointTable) (registry : ClassRegistry) (now : Timestamp)
    (number : UInt32) :
    (table.tick registry now).2.get? number =
      (table.get? number).map fun point => (point.report registry now).after :=
  table.points.get?_mapValues _ number

/-- The ladder of a point, with no change that still has to be told. -/
def Point.quietLadder (point : Point) : PriorityLadder := point.ladder.takeChanged.2

/-- The ladders of a table, with no change that still has to be told. -/
def PointTable.ladders (table : PointTable) : ObjectType × SortedMap UInt32 PriorityLadder :=
  (table.objectType, table.points.mapValues fun _ => Point.quietLadder)

namespace PointTable

/-- A point that takes the place of another one with the same ladder leaves the ladders as they
are. -/
theorem ladders_set {table : PointTable} {number : UInt32} {point : Point}
    (kept : ∀ old, table.get? number = some old -> point.quietLadder = old.quietLadder) :
    (table.set number point).ladders = table.ladders :=
  congrArg (Prod.mk table.objectType) (SortedMap.mapValues_modify Point.quietLadder kept)

/-- A tick takes the changes that the ladders noticed, and nothing else. -/
theorem ladders_tick (table : PointTable) (registry : ClassRegistry) (now : Timestamp) :
    (table.tick registry now).2.ladders = table.ladders :=
  congrArg (Prod.mk table.objectType)
    (SortedMap.mapValues_mapValues Point.quietLadder fun _ _ => rfl)

end PointTable

namespace Station

/-! ## One table for every type -/

/-- No two tables are of one type. -/
def IsSingle (station : Station) : Prop := (station.layout.map (·.objectType)).Nodup

theorem isSingle_iff {station : Station} :
    station.IsSingle ↔ (station.tables.map (·.objectType)).Nodup := by
  rw [IsSingle, layout, List.map_map]
  rfl

/-- No operation adds a table. -/
theorem isSingle_perform {station : Station} (single : station.IsSingle) (operation : Operation) :
    (perform operation station).state.IsSingle := by
  rw [IsSingle, stays_perform operation station]
  exact single

/-- Every point is in its place, and there is one table for every type. -/
structure InOrder (station : Station) : Prop where
  proper : station.IsProper
  single : station.IsSingle

/-- No operation disturbs the order. -/
theorem InOrder.perform {station : Station} (inOrder : station.InOrder) (operation : Operation) :
    (perform operation station).state.InOrder := by
  refine ⟨?_, isSingle_perform inOrder.single operation⟩
  rw [IsProper, stays_perform operation station]
  exact inOrder.proper

section Single

variable {station : Station} (single : station.IsSingle) (object : ObjectId)
include single

/-- With one table for every type, it makes no difference from which end the table is looked
for. -/
theorem point?_eq :
    station.point? object =
      (station.tables.find? (·.objectType = object.objectType)).bind (·.get? object.number) := by
  rw [point?, find?_reverse (isSingle_iff.mp single)]

/-- The point that takes the commands is the one that reports. -/
theorem reportedPoint?_eq : station.reportedPoint? object = station.point? object := by
  rw [point?_eq single, reportedPoint?_eq_bind]

end Single

/-- An object has a point that takes its commands if and only if it is among the objects that
report. -/
theorem InOrder.isSome_point?_iff {station : Station} (inOrder : station.InOrder)
    (object : ObjectId) : (station.point? object).isSome = true ↔ object ∈ station.objects := by
  rw [← reportedPoint?_eq inOrder.single, Option.isSome_iff_exists]
  constructor
  · rintro ⟨point, known⟩
    obtain ⟨listed, same⟩ := (reportedPoint?_eq_some_iff inOrder.proper).mp known
    rw [← ids_points]
    exact List.mem_map.mpr ⟨point, listed, same⟩
  · exact exists_reportedPoint inOrder.proper

/-! ## Changed points -/

/-- A replaced point takes the commands for its object from then on. -/
theorem point?_setPoint (station : Station) (object other : ObjectId) (point : Point) :
    (station.setPoint object point).point? other =
      if object = other then (station.point? other).map fun _ => point
      else station.point? other := by
  have kept : ∀ table : PointTable, station.tables.reverse.find?
      (·.objectType = object.objectType) = some table ->
        (table.set object.number point).objectType = object.objectType :=
    fun table found => by
      have sameType := objectType_of_find? found
      exact sameType
  have tables : (station.setPoint object point).tables.reverse =
      modifyFirst (·.objectType = object.objectType) (·.set object.number point)
        station.tables.reverse := List.reverse_reverse _
  rw [point?, point?, tables, find?_modifyFirst kept]
  by_cases same : object = other
  · subst same
    cases station.tables.reverse.find? (·.objectType = object.objectType) with
    | none => simp
    | some table => simp [PointTable.get?_set]
  · rw [if_neg same]
    split
    · next sameType =>
        have differ := ObjectId.number_ne sameType same
        cases station.tables.reverse.find? (·.objectType = other.objectType) with
        | none => rfl
        | some table => simp [PointTable.get?_set, differ]
    · rfl

/-- The ladder of the point that takes the commands for an object. -/
def ladder? (station : Station) (object : ObjectId) : Option PriorityLadder :=
  (station.point? object).map (·.ladder)

/-- The ladder of a replaced point is the only one that changes. -/
theorem ladder?_setPoint {station : Station} {target : ObjectId} {old point : Point}
    (known : station.point? target = some old) (object : ObjectId) :
    (station.setPoint target point).ladder? object =
      if target = object then some point.ladder else station.ladder? object := by
  rw [ladder?, point?_setPoint]
  split
  · next here =>
      subst here
      rw [known, Option.map_some, Option.map_some]
  · rfl

/-- A tick evaluates the points that report. -/
theorem reportedPoint?_tick (station : Station) (object : ObjectId) :
    (perform .tick station).state.reportedPoint? object =
      (station.reportedPoint? object).map fun point =>
        (point.report station.registry station.clock).after := by
  have kept : ∀ table : PointTable,
      (table.tick station.registry station.clock).2.objectType = table.objectType := fun _ => rfl
  have evaluated : (perform .tick station).state.tables = station.evaluate.tables := by
    obtain ⟨bus, after, effects, ⟨⟨sent, final, same⟩, -⟩, ticks⟩ := perform_tick station
    rw [ticks, same]
  rw [reportedPoint?_eq_bind, reportedPoint?_eq_bind, evaluated, evaluate,
    find?_modifyReporters kept (by simp)]
  cases station.tables.find? (·.objectType = object.objectType) with
  | none => rfl
  | some table =>
      rw [Option.map_some, Option.bind_some, Option.bind_some, PointTable.get?_tick]

section Single

variable {station : Station} (single : station.IsSingle)
include single

/-- An acknowledged point takes the place of the old one. -/
theorem point?_acknowledged {request : AckRequest} {table : PointTable} {point acked : Point}
    (found : station.tables.find? (·.objectType = request.object.objectType) = some table)
    (known : table.get? request.object.number = some point) {after : Station}
    (tables : after.tables = modifyFirst (·.objectType = request.object.objectType)
      (fun _ => table.set request.object.number acked) station.tables)
    (stillSingle : after.IsSingle) (object : ObjectId) :
    after.point? object = if request.object = object then some acked else station.point? object := by
  have kept : ∀ first, station.tables.find? (·.objectType = request.object.objectType) =
      some first -> (table.set request.object.number acked).objectType =
        request.object.objectType := fun first here => by
    have sameType := objectType_of_find? found
    exact sameType
  rw [point?_eq stillSingle, point?_eq single, tables, find?_modifyFirst kept]
  by_cases same : request.object = object
  · subst same
    rw [if_pos rfl, if_pos rfl, found, Option.map_some, Option.bind_some, PointTable.get?_set,
      if_pos rfl, known, Option.map_some]
  · rw [if_neg same]
    split
    · next sameType =>
        rw [← sameType, found, Option.map_some, Option.bind_some, Option.bind_some,
          PointTable.get?_set, if_neg (ObjectId.number_ne sameType same)]
    · rfl

/-- A tick evaluates every point. -/
theorem point?_tick (object : ObjectId) :
    (perform .tick station).state.point? object =
      (station.point? object).map fun point =>
        (point.report station.registry station.clock).after := by
  rw [← reportedPoint?_eq (isSingle_perform single .tick), ← reportedPoint?_eq single,
    reportedPoint?_tick]

/-- A tick takes the change that a ladder noticed, and leaves it as it is otherwise. -/
theorem ladder?_tick (object : ObjectId) :
    (perform .tick station).state.ladder? object =
      (station.ladder? object).map fun ladder => ladder.takeChanged.2 := by
  rw [ladder?, ladder?, point?_tick single, Option.map_map, Option.map_map]
  rfl

end Single

/-- What an operation other than a tick does to the ladders of a station. -/
inductive Laddered (station : Station) (operation : Operation) (answer : Answer)
    (after : Station) : Prop where
  | same (ladders : ∀ object, after.ladder? object = station.ladder? object)
  | commanded {target : ObjectId} {asked : PriorityLadder.Operation} {command : Command}
      {ladder result : PriorityLadder} (commands : operation.command? = some (target, asked))
      (answers : answer = .value command.new) (known : station.ladder? target = some ladder)
      (accepted : ladder.perform asked = (.command command, result))
      (ladders : ∀ object, after.ladder? object =
        if target = object then some result else station.ladder? object)
  | served {target : ObjectId} {value : Bool} {ladder : PriorityLadder}
      (asks : operation = .setOutOfService target value)
      (known : station.ladder? target = some ladder)
      (ladders : ∀ object, after.ladder? object =
        if target = object then some (ladder.setOutOfService value) else station.ladder? object)

/-- Only commands and switches of the service flag change a ladder between ticks. -/
theorem laddered {station : Station} (single : station.IsSingle) {operation : Operation}
    (noTick : operation ≠ .tick) :
    Laddered station operation (perform operation station).answer
      (perform operation station).state := by
  have stillSingle := isSingle_perform single operation
  have done := carried station operation
  generalize perform operation station = outcome at done stillSingle ⊢
  cases done with
  | refused | notAcked | swept | timed => exact .same fun _ => rfl
  | commanded commands known accepted records =>
      obtain ⟨⟨output, settings, rfl⟩, -⟩ := records
      exact .commanded commands rfl (congrArg (Option.map Point.ladder) known) accepted
        (ladder?_setPoint known)
  | served known records =>
      obtain ⟨⟨output, settings, rfl⟩, -⟩ := records
      exact .served rfl (congrArg (Option.map Point.ladder) known) (ladder?_setPoint known)
  | trusted known =>
      refine .same fun object => ?_
      rw [ladder?_setPoint known]
      split
      · next here =>
          subst here
          rw [ladder?, known, Option.map_some]
          rfl
      · rfl
  | acknowledged found known granted =>
      refine .same fun object => ?_
      rw [ladder?, point?_acknowledged single found known rfl stillSingle]
      split
      · next here =>
          subst here
          obtain ⟨monitored, -, same⟩ := bind_eq_ok_iff.mp granted
          cases same
          rw [ladder?, point?_eq single, found, Option.bind_some, known, Option.map_some,
            Option.map_some]
      · rfl
  | listed replaced records =>
      obtain ⟨⟨output, settings, rfl⟩, -⟩ := records
      exact .same fun _ => rfl
  | ticked => exact absurd rfl noTick

/-! ## Ladders apart from what they noticed -/

/-- The ladder of an object, with no change that still has to be told. -/
def quietLadder? (station : Station) (object : ObjectId) : Option PriorityLadder :=
  (station.ladder? object).map fun ladder => ladder.takeChanged.2

/-- Where the ladder of an object is found depends on nothing but the ladders of the tables. -/
theorem quietLadder?_eq (station : Station) (object : ObjectId) :
    station.quietLadder? object =
      ((station.tables.map (·.ladders)).reverse.find? (·.1 = object.objectType)).bind
        (·.2.get? object.number) := by
  have found : (station.tables.map (·.ladders)).reverse.find? (·.1 = object.objectType) =
      (station.tables.reverse.find? (·.objectType = object.objectType)).map (·.ladders) := by
    rw [← List.map_reverse, List.find?_map]
    rfl
  rw [found, quietLadder?, ladder?, point?]
  cases station.tables.reverse.find? (·.objectType = object.objectType) with
  | none => rfl
  | some table =>
      rw [Option.bind_some, Option.map_some, Option.bind_some, PointTable.ladders,
        SortedMap.get?_mapValues, Option.map_map]
      rfl

/-- Tables with the same ladders have the same one for every object. -/
theorem quietLadder?_of_tables {before after : Station}
    (same : after.tables.map (·.ladders) = before.tables.map (·.ladders)) (object : ObjectId) :
    after.quietLadder? object = before.quietLadder? object := by
  rw [quietLadder?_eq, quietLadder?_eq, same]

/-- An operation that neither commands an object nor switches its service flag leaves all
ladders as they are, whatever they noticed. -/
theorem quietLadder?_perform {station : Station} {operation : Operation}
    (noCommand : operation.command? = none)
    (noSwitch : ∀ object value, operation ≠ .setOutOfService object value) (object : ObjectId) :
    (perform operation station).state.quietLadder? object = station.quietLadder? object := by
  have done := carried station operation
  generalize perform operation station = outcome at done ⊢
  cases done with
  | refused | notAcked | swept | timed => rfl
  | commanded commands =>
      rw [noCommand] at commands
      cases commands
  | served => exact absurd rfl (noSwitch _ _)
  | trusted known =>
      rw [quietLadder?, quietLadder?, ladder?_setPoint known]
      split
      · next here =>
          subst here
          rw [ladder?, known]
          rfl
      · rfl
  | acknowledged found known granted =>
      refine quietLadder?_of_tables (map_modifyFirst fun first here => ?_) object
      cases found.symm.trans here
      refine PointTable.ladders_set fun old present => ?_
      cases known.symm.trans present
      obtain ⟨monitored, -, same⟩ := bind_eq_ok_iff.mp granted
      cases same
      rfl
  | listed replaced records =>
      obtain ⟨⟨output, settings, rfl⟩, -⟩ := records
      rfl
  | ticked spreads =>
      obtain ⟨⟨sent, bus, rfl⟩, -⟩ := spreads
      exact quietLadder?_of_tables
        (map_modifyReporters (fun table => table.ladders_tick _ _) [] station.tables) object

/-! ## Reports -/

/-- A point tells of its value and its flags if it noticed a change. -/
theorem change_report (point : Point) (registry : ClassRegistry) (now : Timestamp) :
    (point.report registry now).change =
      if point.ladder.changed then
        some ⟨point.id, .valueChanged point.presentValue point.statusFlags, now⟩
      else none := rfl

/-- A point tells of changes of its own. -/
theorem object_change {point : Point} {registry : ClassRegistry} {now : Timestamp}
    {event : BusEvent} (told : (point.report registry now).change = some event) :
    event.object = point.id := by
  rw [change_report] at told
  split at told
  · cases told
    rfl
  · cases told

/-- A tick tells of changes and records point by point. -/
theorem tickReport_eq (station : Station) :
    station.tickReport =
      { changes := station.points.filterMap fun point =>
          (point.report station.registry station.clock).change
        records := station.points.filterMap fun point =>
          (point.report station.registry station.clock).record } := by
  simp only [tickReport, points, PointTable.tick, List.flatMap_map, List.filterMap_map,
    List.filterMap_flatMap]
  rfl

section Proper

variable {station : Station} (proper : station.IsProper)
include proper

/-- For an object there is at most one point that reports. -/
theorem filter_points (object : ObjectId) :
    station.points.filter (·.id = object) = (station.reportedPoint? object).toList := by
  have reports : ∀ point, point ∈ station.points.filter (·.id = object) ↔
      station.reportedPoint? object = some point := fun point => by
    rw [List.mem_filter, decide_eq_true_eq, reportedPoint?_eq_some_iff proper]
  have apart := (points_ascending proper).filter (·.id = object)
  generalize station.points.filter (·.id = object) = listed at reports apart ⊢
  rcases listed with _ | ⟨point, _ | ⟨second, rest⟩⟩
  · have absent : station.reportedPoint? object = none := by
      rw [Option.eq_none_iff_forall_ne_some]
      exact fun point known => absurd ((reports point).mpr known) List.not_mem_nil
    rw [absent, Option.toList_none]
  · rw [(reports point).mp (List.mem_singleton_self point), Option.toList_some]
  · have one := (reports point).mp (List.mem_cons_self ..)
    have other := (reports second).mp (List.mem_cons_of_mem _ (List.mem_cons_self ..))
    cases one.symm.trans other
    have below := (List.pairwise_cons.mp apart).1 point (List.mem_cons_self ..)
    exact absurd below (KeyOrder.irreflexive point.id)

/-- What is told about an object is what its point tells, if points only tell about their
own objects. -/
theorem filter_told {Told : Type} {tell : Point -> Option Told} {about : Told -> ObjectId}
    (own : ∀ point told, tell point = some told -> about told = point.id) (object : ObjectId) :
    (station.points.filterMap tell).filter (about · = object) =
      ((station.reportedPoint? object).bind tell).toList := by
  have ofPoint : ∀ point : Point, (tell point).filter (about · = object) =
      if point.id = object then tell point else none := fun point => by
    cases told : tell point with
    | none => simp
    | some told => simp [Option.filter, own point _ told]
  have one := congrArg (List.filterMap tell) (filter_points proper object)
  rw [List.filterMap_filter] at one
  rw [List.filter_filterMap]
  simp only [ofPoint]
  simp only [decide_eq_true_eq] at one
  rw [one]
  cases station.reportedPoint? object with
  | none => rfl
  | some point =>
      rw [Option.toList_some, Option.bind_some, List.filterMap_cons, List.filterMap_nil]
      cases tell point <;> rfl

/-- What is told comes in the order of objects, if points only tell about their own objects. -/
theorem told_ascending {Told : Type} {tell : Point -> Option Told} {about : Told -> ObjectId}
    (own : ∀ point told, tell point = some told -> about told = point.id) :
    (station.points.filterMap tell).Pairwise fun left right => about left < about right := by
  refine (points_ascending proper).filterMap _ ?_
  intro left right below leftTold leftTells rightTold rightTells
  rw [own left leftTold leftTells, own right rightTold rightTells]
  exact below

/-- A tick tells of a change of an object if the point of the object noticed one. -/
theorem changes_of_object (object : ObjectId) :
    station.tickReport.changes.filter (·.object = object) =
      ((station.reportedPoint? object).bind fun point =>
        (point.report station.registry station.clock).change).toList := by
  rw [tickReport_eq]
  exact filter_told proper (fun _ _ => object_change) object

/-- The changes of a tick come in strictly ascending order of objects. -/
theorem changes_ascending :
    station.tickReport.changes.Pairwise fun left right => left.object < right.object := by
  rw [tickReport_eq]
  exact told_ascending proper fun _ _ => object_change

/-- A tick tells of the record of an object if the point of the object made one. -/
theorem records_of_object (object : ObjectId) :
    station.tickReport.records.filter (·.object = object) =
      ((station.reportedPoint? object).bind fun point =>
        (point.report station.registry station.clock).record).toList := by
  rw [tickReport_eq]
  exact filter_told proper (fun _ _ => Point.object_tick) object

/-- The records of a tick come in strictly ascending order of objects. -/
theorem records_ascending :
    station.tickReport.records.Pairwise fun left right => left.object < right.object := by
  rw [tickReport_eq]
  exact told_ascending proper fun _ _ => Point.object_tick

end Proper

end Station

end Annunciator
