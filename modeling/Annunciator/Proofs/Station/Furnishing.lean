import Annunciator.Proofs.Station.Startup

/-!
# Furnished points

The tables of a configuration hold one point for every entry, set up from it, and no other
points. No two entries are about one object, or there would be no tables.
-/

namespace Annunciator

/-- What an entry sets up is the point of its object. -/
theorem PointEntry.of_build {entry : PointEntry} {point : Point}
    (built : entry.build = .ok point) :
    point.id = entry.object ∧ point.notificationClass = entry.notificationClass := by
  obtain ⟨ladder, -, rfl⟩ := PointDescription.exists_ladder_of_build built
  exact ⟨rfl, rfl⟩

/-- A table takes the point of an entry if it has none for the object yet. -/
theorem PointTable.of_addEntry {table after : PointTable} {entry : PointEntry}
    (added : table.addEntry entry = .ok after) :
    ∃ point, entry.build = .ok point ∧ table.get? entry.number = none ∧
      after = { table with points := table.points.insert entry.number point } := by
  obtain ⟨point, passed, inserted⟩ := bind_eq_ok_iff.mp added
  have built := Station.mapError_eq_ok_iff.mp passed
  have accepted := Station.mapError_eq_ok_iff.mp inserted
  obtain ⟨sameType, same⟩ := of_insert accepted
  rw [PointTable.insert, if_neg (not_not.mpr sameType)] at accepted
  have sameNumber : point.id.number = entry.number := by
    rw [(PointEntry.of_build built).1]
    rfl
  rw [sameNumber] at accepted same
  refine ⟨point, built, ?_, same⟩
  split at accepted
  · cases accepted
  · next free => exact Option.not_isSome_iff_eq_none.mp free

/-- A table takes a point of its own type whose number is free. -/
theorem PointTable.insert_eq_ok {table : PointTable} {point : Point}
    (sameType : point.id.objectType = table.objectType)
    (free : table.get? point.id.number = none) :
    table.insert point =
      .ok { table with points := table.points.insert point.id.number point } := by
  have absent : ¬ table.points.contains point.id.number = true :=
    Option.not_isSome_iff_eq_none.mpr free
  rw [PointTable.insert, if_neg (not_not.mpr sameType), if_neg absent]

/-- An entry whose place is free is added if its point can be set up. -/
theorem PointTable.addEntry_eq {table : PointTable} {entry : PointEntry}
    (sameType : table.objectType = entry.objectType) (free : table.get? entry.number = none) :
    table.addEntry entry = (entry.build.mapError .description).map fun point =>
      { table with points := table.points.insert entry.number point } := by
  rw [addEntry]
  cases built : entry.build with
  | error refusal => rfl
  | ok point =>
      have same := (PointEntry.of_build built).1
      have taken : table.insert point = .ok _ :=
        insert_eq_ok (by rw [same, sameType, PointEntry.object]) (by rw [same]; exact free)
      rw [same] at taken
      change (table.insert point).mapError StartupError.placement = _
      rw [taken]
      rfl

namespace Station

/-- The point of an object in tables under their types. -/
def placed? (tables : SortedMap ObjectType PointTable) (object : ObjectId) : Option Point :=
  (tables.get? object.objectType).bind (·.get? object.number)

/-- An entry adds its point, and leaves all others where they are. -/
theorem placed?_place {tables after : SortedMap ObjectType PointTable} {entry : PointEntry}
    (accepted : Configuration.place tables entry = .ok after) :
    ∃ point, entry.build = .ok point ∧ placed? tables entry.object = none ∧
      ∀ object, placed? after object =
        if entry.object = object then some point else placed? tables object := by
  obtain ⟨table, added, same⟩ := bind_eq_ok_iff.mp accepted
  cases same
  obtain ⟨point, built, free, rfl⟩ := PointTable.of_addEntry added
  -- A table that is made for the entry is as empty as one that is not there.
  have before : ∀ number, ((tables.get? entry.objectType).getD (.empty entry.objectType)).get?
      number = (tables.get? entry.objectType).bind (·.get? number) := fun number => by
    cases tables.get? entry.objectType <;> rfl
  refine ⟨point, built, (before entry.number).symm.trans free, fun object => ?_⟩
  rw [placed?, SortedMap.get?_insert]
  by_cases here : entry.object = object
  · subst here
    rw [if_pos rfl, PointEntry.object, if_pos rfl, Option.bind_some, PointTable.get?,
      SortedMap.get?_insert, if_pos rfl]
  · rw [if_neg here]
    split
    · next sameType =>
        have otherNumber : entry.number ≠ object.number := ObjectId.number_ne sameType here
        rw [Option.bind_some, PointTable.get?, SortedMap.get?_insert, if_neg otherNumber, placed?,
          ← sameType]
        exact before object.number
    · rfl

/-- The points that some entries add to tables. -/
structure Furnishes (entries : List PointEntry) (tables after : SortedMap ObjectType PointTable) :
    Prop where
  distinct : (entries.map (·.object)).Nodup
  free : ∀ entry ∈ entries, placed? tables entry.object = none
  placed : ∀ entry ∈ entries, ∃ point, entry.build = .ok point ∧
    placed? after entry.object = some point
  kept : ∀ object ∉ entries.map (·.object), placed? after object = placed? tables object

/-- Entries that are all accepted add their points, each to a place that was free. -/
theorem furnishes {entries : List PointEntry} {tables after : SortedMap ObjectType PointTable}
    (accepted : entries.foldlM Configuration.place tables = .ok after) :
    Furnishes entries tables after := by
  induction entries generalizing tables with
  | nil =>
      cases accepted
      refine ⟨.nil, ?_, ?_, fun _ _ => rfl⟩
      · exact fun _ member => nomatch member
      · exact fun _ member => nomatch member
  | cons entry rest inductionHypothesis =>
      rw [List.foldlM_cons] at accepted
      obtain ⟨next, here, later⟩ := bind_eq_ok_iff.mp accepted
      obtain ⟨point, built, free, placed⟩ := placed?_place here
      have added := inductionHypothesis later
      have apart : entry.object ∉ rest.map (·.object) := fun member => by
        obtain ⟨other, listed, same⟩ := List.mem_map.mp member
        have taken := added.free other listed
        rw [placed, if_pos same.symm] at taken
        cases taken
      refine ⟨List.nodup_cons.mpr ⟨apart, added.distinct⟩, ?_, ?_, ?_⟩
      · intro other listed
        rcases List.mem_cons.mp listed with rfl | there
        · exact free
        · have taken := added.free other there
          rw [placed, if_neg fun same => apart (List.mem_map.mpr ⟨other, there, same.symm⟩)] at taken
          exact taken
      · intro other listed
        rcases List.mem_cons.mp listed with rfl | there
        · exact ⟨point, built, by rw [added.kept _ apart, placed, if_pos rfl]⟩
        · exact added.placed other there
      · intro object absent
        rw [List.map_cons, List.mem_cons, not_or] at absent
        rw [added.kept object absent.2, placed, if_neg (Ne.symm absent.1)]

/-- New tables are found under their types. -/
theorem AreNew.find?_values {tables : SortedMap ObjectType PointTable} (new : AreNew tables)
    (objectType : ObjectType) :
    tables.values.find? (·.objectType = objectType) = tables.get? objectType := by
  ext table
  rw [find?_objectType_iff new.nodup_types, SortedMap.get?_eq_some_iff]
  constructor
  · rintro ⟨member, rfl⟩
    obtain ⟨entry, listed, rfl⟩ := List.mem_map.mp member
    rw [(new entry listed).2]
    exact listed
  · exact fun listed => ⟨List.mem_map_of_mem listed, (new _ listed).2⟩

/-- No two points of a configuration are about one object, and each of them takes the commands
for its object once the tables are there. -/
theorem point?_of_tables {configuration : Configuration} {station : Station}
    (furnished : configuration.tables = .ok station.tables) :
    (configuration.points.map (·.object)).Nodup ∧
      ∀ entry ∈ configuration.points, ∃ point, entry.build = .ok point ∧
        station.point? entry.object = some point := by
  obtain ⟨byType, placed, new, tables⟩ := exists_placed furnished
  have added := furnishes placed
  refine ⟨added.distinct, fun entry listed => ?_⟩
  obtain ⟨point, built, there⟩ := added.placed entry listed
  refine ⟨point, built, ?_⟩
  rw [point?_eq (isSingle_iff.mpr (isNew_tables furnished).2), tables, new.find?_values]
  exact there

/-- The objects of a furnished station are those of the entries. -/
theorem isSome_point?_of_tables {configuration : Configuration} {station : Station}
    (furnished : configuration.tables = .ok station.tables) (object : ObjectId) :
    (station.point? object).isSome = true ↔ object ∈ configuration.points.map (·.object) := by
  constructor
  · intro known
    by_contra absent
    obtain ⟨byType, placed, new, tables⟩ := exists_placed furnished
    have nothing := (furnishes placed).kept object absent
    rw [point?_eq (isSingle_iff.mpr (isNew_tables furnished).2), tables, new.find?_values] at known
    rw [placed?] at nothing
    rw [nothing] at known
    cases known
  · intro listed
    obtain ⟨entry, member, rfl⟩ := List.mem_map.mp listed
    obtain ⟨point, -, there⟩ := (point?_of_tables furnished).2 entry member
    rw [there]
    rfl

/-! ## Places that are free -/

/-- An entry whose object has no point yet is placed if its point can be set up. -/
theorem place_cases {tables : SortedMap ObjectType PointTable} (new : AreNew tables)
    {entry : PointEntry} (free : placed? tables entry.object = none) :
    (∃ after, Configuration.place tables entry = .ok after) ∨
      ∃ refusal, entry.build = .error refusal ∧
        Configuration.place tables entry = .error (.description refusal) := by
  have sameType : ((tables.get? entry.objectType).getD (.empty entry.objectType)).objectType =
      entry.objectType := by
    cases found : tables.get? entry.objectType with
    | none => rfl
    | some table => exact (new _ ((SortedMap.get?_eq_some_iff _ _ _).mp found)).2
  have unused : ((tables.get? entry.objectType).getD (.empty entry.objectType)).get?
      entry.number = none := by
    rw [placed?, PointEntry.object] at free
    cases found : tables.get? entry.objectType with
    | none => rfl
    | some table =>
        rw [found] at free
        exact free
  rw [Configuration.place, PointTable.addEntry_eq sameType unused]
  cases built : entry.build with
  | ok point => exact .inl ⟨_, rfl⟩
  | error refusal => exact .inr ⟨refusal, rfl, rfl⟩

/-- Entries about distinct objects without points are placed if their points can be set up. -/
theorem placeAll_cases {entries : List PointEntry} {tables : SortedMap ObjectType PointTable}
    (new : AreNew tables) (distinct : (entries.map (·.object)).Nodup)
    (free : ∀ entry ∈ entries, placed? tables entry.object = none) :
    (∃ after, entries.foldlM Configuration.place tables = .ok after) ∨
      ∃ refusal, (∃ entry ∈ entries, entry.build = .error refusal) ∧
        entries.foldlM Configuration.place tables = .error (.description refusal) := by
  induction entries generalizing tables with
  | nil => exact .inl ⟨tables, rfl⟩
  | cons entry rest inductionHypothesis =>
      obtain ⟨apart, later⟩ := List.nodup_cons.mp distinct
      rw [List.foldlM_cons]
      rcases place_cases new (free entry (List.mem_cons_self ..)) with
        ⟨next, placed⟩ | ⟨refusal, refused, fails⟩
      · obtain ⟨point, -, -, places⟩ := placed?_place placed
        have stillFree : ∀ other ∈ rest, placed? next other.object = none := by
          intro other member
          have differ : entry.object ≠ other.object := fun same =>
            apart (List.mem_map.mpr ⟨other, member, same.symm⟩)
          rw [places, if_neg differ]
          exact free other (List.mem_cons_of_mem _ member)
        rw [placed]
        rcases inductionHypothesis (new.place placed) later stillFree with
          done | ⟨refusal, ⟨other, member, refused⟩, fails⟩
        · exact .inl done
        · exact .inr ⟨refusal, ⟨other, List.mem_cons_of_mem _ member, refused⟩, fails⟩
      · rw [fails]
        exact .inr ⟨refusal, ⟨entry, List.mem_cons_self .., refused⟩, rfl⟩

end Station

end Annunciator
