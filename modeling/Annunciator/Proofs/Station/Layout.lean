import Annunciator.Proofs.Station.Steps

/-!
# The layout of a station

Points change with every operation, but none of them moves: whatever a station is
asked to do, the same objects stay in the same tables under the same numbers. This
is the layout of the station, and every operation is shown once to keep it. What
holds of the layout at the start then holds after every run.
-/

namespace Annunciator

/-! ## Tables -/

/-- Where the points of a table are: its type, and which object is under which number. -/
structure Layout where
  objectType : ObjectType
  places : List (UInt32 × ObjectId)

namespace Layout

/-- The objects in the order of their numbers. -/
def objects (layout : Layout) : List ObjectId := layout.places.map Prod.snd

/-- Every object is of the type of the table and under its own number. -/
def IsProper (layout : Layout) : Prop :=
  ∀ place ∈ layout.places, place.2 = ⟨layout.objectType, place.1⟩

end Layout

/-! Whatever happens to a point, it stays the same object. -/

namespace Point

@[simp] theorem id_report (point : Point) (registry : ClassRegistry) (now : Timestamp) :
    (point.report registry now).after.id = point.id := rfl

/-- An acknowledgment leaves a point the same object. -/
theorem id_acknowledge {point after : Point} {request : AckRequest} {outcome : AckOutcome}
    (accepted : point.acknowledge request = .ok (outcome, after)) : after.id = point.id := by
  obtain ⟨granted, -, same⟩ := bind_eq_ok_iff.mp accepted
  cases same
  rfl

end Point

namespace PointTable

/-- A table to which points were added one after the other. -/
inductive Filled : PointTable -> Prop where
  | empty (objectType : ObjectType) : Filled (.empty objectType)
  | insert {table after : PointTable} {point : Point} (filled : Filled table)
      (accepted : table.insert point = .ok after) : Filled after

/-- Where the points of a table are. -/
def layout (table : PointTable) : Layout where
  objectType := table.objectType
  places := table.points.entries.map fun entry => (entry.1, entry.2.id)

@[simp] theorem layout_objectType (table : PointTable) :
    table.layout.objectType = table.objectType := rfl

/-- The objects of a table are those of its points. -/
theorem layout_objects (table : PointTable) :
    table.layout.objects = table.points.values.map (·.id) := by
  simp [Layout.objects, layout, SortedMap.values, Function.comp_def]

/-- What is added has to be of the type of the table, and goes under its own number. -/
theorem of_insert {table after : PointTable} {point : Point}
    (accepted : table.insert point = .ok after) :
    point.id.objectType = table.objectType ∧
      after = { table with points := table.points.insert point.id.number point } := by
  rw [PointTable.insert] at accepted
  split at accepted
  · cases accepted
  · next sameType =>
      split at accepted
      · cases accepted
      · cases accepted
        exact ⟨not_not.mp sameType, rfl⟩

/-- In a table that was filled point by point every point is in its place. -/
theorem isProper_of_filled {table : PointTable} (filled : table.Filled) :
    table.layout.IsProper := by
  induction filled with
  | empty objectType =>
      intro place member
      cases member
  | @insert table after point _ accepted inductionHypothesis =>
      obtain ⟨sameType, rfl⟩ := of_insert accepted
      intro place member
      obtain ⟨entry, listed, rfl⟩ := List.mem_map.mp member
      rcases SortedMap.mem_insertEntry listed with rfl | old
      · rw [layout_objectType, ← sameType]
      · exact inductionHypothesis _ (List.mem_map_of_mem old)

/-- The objects of a proper table are of its type and in strictly ascending order. -/
theorem objects_ascending {table : PointTable} (proper : table.layout.IsProper) :
    (∀ object ∈ table.layout.objects, object.objectType = table.objectType) ∧
      table.layout.objects.Pairwise (· < ·) := by
  constructor
  · intro object member
    obtain ⟨place, listed, rfl⟩ := List.mem_map.mp member
    rw [proper place listed]
    rfl
  · have numbers : table.layout.places.Pairwise fun left right => left.1 < right.1 := by
      have ascending := table.points.ascending
      rw [List.pairwise_map] at ascending
      exact List.pairwise_map.mpr ascending
    rw [Layout.objects, List.pairwise_map]
    refine numbers.imp_of_mem ?_
    intro left right leftListed rightListed below
    rw [proper left leftListed, proper right rightListed]
    exact Nat.add_lt_add_left (UInt32.lt_iff_toNat_lt.mp below) _

/-! ### What is done to a table -/

/-- Changed points are in the places of the old ones. -/
theorem layout_mapValues (table : PointTable) (change : UInt32 -> Point -> Point)
    (kept : ∀ entry ∈ table.points.entries, (change entry.1 entry.2).id = entry.2.id) :
    layout { table with points := table.points.mapValues change } = table.layout :=
  congrArg (fun places : SortedMap UInt32 ObjectId => Layout.mk table.objectType places.entries)
    (SortedMap.mapValues_mapValues Point.id kept)

/-- A point that takes the place of one of the same object moves nothing. -/
theorem layout_set {table : PointTable} {number : UInt32} {point : Point}
    (kept : ∀ old, table.get? number = some old -> point.id = old.id) :
    (table.set number point).layout = table.layout :=
  congrArg (fun places : SortedMap UInt32 ObjectId => Layout.mk table.objectType places.entries)
    (SortedMap.mapValues_modify Point.id kept)

/-- A tick moves nothing in a table. -/
theorem layout_tick (table : PointTable) (registry : ClassRegistry) (now : Timestamp) :
    (table.tick registry now).2.layout = table.layout :=
  layout_mapValues table _ fun entry _ => entry.2.id_report registry now

end PointTable

/-! ## Lists of tables -/

section Shared

variable {Member Trait : Type} {property : Member -> Bool} {change : Member -> Member}
  {trait : Member -> Trait}

/-- A change that keeps a trait of the first member that has a property leaves the
traits of all members as they are. -/
theorem map_modifyFirst {members : List Member}
    (kept : ∀ member, members.find? property = some member ->
      trait (change member) = trait member) :
    (modifyFirst property change members).map trait = members.map trait := by
  induction members with
  | nil => rfl
  | cons member rest inductionHypothesis =>
      rw [modifyFirst]
      split
      · next here => rw [List.map_cons, kept member (List.find?_cons_of_pos here), List.map_cons]
      · next further =>
          rw [List.map_cons, List.map_cons, inductionHypothesis]
          intro other found
          exact kept other ((List.find?_cons_of_neg further).trans found)

/-- So does a change that keeps a trait of the last member that has the property. -/
theorem map_modifyLast {members : List Member}
    (kept : ∀ member, members.reverse.find? property = some member ->
      trait (change member) = trait member) :
    (modifyLast property change members).map trait = members.map trait := by
  rw [modifyLast, List.map_reverse, map_modifyFirst kept, ← List.map_reverse,
    List.reverse_reverse]

/-- A change of the reporting tables that keeps a trait of any table leaves the traits of all
tables as they are. -/
theorem map_modifyReporters {change : PointTable -> PointTable} {trait : PointTable -> Trait}
    (kept : ∀ table, trait (change table) = trait table) (seen : List ObjectType)
    (tables : List PointTable) :
    (modifyReporters change seen tables).map trait = tables.map trait := by
  induction tables generalizing seen with
  | nil => rfl
  | cons table rest inductionHypothesis =>
      rw [modifyReporters]
      split
      · rw [List.map_cons, List.map_cons, inductionHypothesis]
      · rw [List.map_cons, List.map_cons, inductionHypothesis, kept]

end Shared

/-! ## Stations -/

namespace Station

/-- Where the points of a station are. -/
def layout (station : Station) : List Layout := station.tables.map (·.layout)

/-- An activity that moves no object of one station. -/
def StaysAt {Answer : Type} (station : Station) (activity : Activity Station Answer) : Prop :=
  (activity station).state.layout = station.layout

/-- An activity that moves no object. -/
def Stays {Answer : Type} (activity : Activity Station Answer) : Prop :=
  ∀ station, StaysAt station activity

/-! ### Every operation -/

/-- A point that takes the place of one of the same object moves nothing in the station. -/
theorem layout_setPoint {station : Station} {object : ObjectId} {old point : Point}
    (known : station.point? object = some old) (same : point.id = old.id) :
    (station.setPoint object point).layout = station.layout := by
  refine map_modifyLast fun table found => PointTable.layout_set fun present there => ?_
  rw [point?, found] at known
  cases there.symm.trans known
  exact same

/-- To evaluate all points moves none of them. -/
theorem layout_evaluate (station : Station) : station.evaluate.layout = station.layout :=
  map_modifyReporters (fun table => table.layout_tick station.registry station.clock) []
    station.tables

/-- No operation moves an object. -/
theorem stays_perform (operation : Operation) : Stays (perform operation) := by
  intro station
  have done := carried station operation
  rw [StaysAt]
  generalize perform operation station = outcome at done ⊢
  cases done with
  | refused | notAcked | swept | timed => rfl
  | commanded _ known _ records | served known records =>
      obtain ⟨⟨output, settings, rfl⟩, -⟩ := records
      exact layout_setPoint known rfl
  | trusted known => exact layout_setPoint known rfl
  | acknowledged found known granted =>
      -- The first table of the type gives way to the same table with another point.
      refine map_modifyFirst fun first here => ?_
      cases found.symm.trans here
      refine PointTable.layout_set fun old present => ?_
      cases known.symm.trans present
      exact Point.id_acknowledge granted
  | listed _ records =>
      obtain ⟨⟨output, settings, rfl⟩, -⟩ := records
      rfl
  | ticked spreads =>
      obtain ⟨⟨sent, bus, rfl⟩, -⟩ := spreads
      exact station.layout_evaluate

/-- No run moves an object. -/
theorem stays_run (operations : List Operation) : Stays (run operations) := by
  intro station
  rw [StaysAt, run_eq]
  exact history_invariant (fun _ state => layout state = station.layout) rfl
    (fun _ state operation kept => (stays_perform operation state).trans kept) operations

end Station

end Annunciator
