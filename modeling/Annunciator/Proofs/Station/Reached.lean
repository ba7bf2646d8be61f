import Annunciator.Proofs.Monitor.AnnouncementBudget
import Annunciator.Proofs.Station.Lives

/-!
# Reached states

Beside its services there are other ways to a station. Its classes can be entered straight into
the registry, and a single point can be asked for something directly, which includes settings of
its monitor that no service offers. `Reached` are all states that any of this leads to. In all
of them every point is in its place, and is what its own operations made of a new one.
-/

namespace Annunciator

/-! ## Points -/

/-- The points that operations lead to. -/
inductive Point.Lived : Point -> Prop where
  | built {description : PointDescription} {point : Point}
      (accepted : description.build = .ok point) : Lived point
  | asked {point : Point} (lived : Lived point) (operation : Point.Operation) :
      Lived (point.perform operation).2

namespace Point.Lived

/-- To be reported about is to be asked twice: for a change that was noticed, and for a tick. -/
theorem report {point : Point} (lived : point.Lived) (registry : ClassRegistry)
    (now : Timestamp) : (point.report registry now).after.Lived :=
  (lived.asked (.ladder .takeChanged)).asked (.tick (registry.ackRequired _) now)

/-- To be granted an acknowledgment is to be asked for it. -/
theorem acknowledge {point after : Point} (lived : point.Lived) {request : AckRequest}
    {outcome : AckOutcome} (granted : point.acknowledge request = .ok (outcome, after)) :
    after.Lived := by
  have acked : (point.perform (.acknowledge request)).2 = after := by rw [perform, granted]
  exact acked ▸ lived.asked (.acknowledge request)

/-- What waits to be announced was acknowledged. -/
theorem announcesAcked {point : Point} (lived : point.Lived) : point.monitor.AnnouncesAcked := by
  induction lived with
  | built accepted =>
      obtain ⟨ladder, -, rfl⟩ := PointDescription.exists_ladder_of_build accepted
      exact .create _
  | @asked point _ operation inductionHypothesis =>
      rcases point.monitor_perform operation with kept | ⟨passed, reaches⟩
      · rw [kept]
        exact inductionHypothesis
      · rw [reaches]
        exact (point.monitor.settles passed).announcesAcked inductionHypothesis

end Point.Lived

/-! ## Tables -/

namespace PointTable

/-- A table of points that operations lead to. -/
def Lived (table : PointTable) : Prop := ∀ point ∈ table.points.values, point.Lived

/-- Ask the point with a number for something. -/
def handle (table : PointTable) (number : UInt32) (operation : Point.Operation) : PointTable :=
  { table with
    points := table.points.modify number fun point => (point.perform operation).2 }

/-- What a point is asked for moves nothing in its table. -/
theorem layout_handle (table : PointTable) (number : UInt32) (operation : Point.Operation) :
    (table.handle number operation).layout = table.layout := by
  refine layout_mapValues table _ fun entry _ => ?_
  dsimp only
  split
  · exact entry.2.id_perform operation
  · rfl

namespace Lived

variable {table : PointTable}

/-- New points have lived, with nothing asked of them yet. -/
theorem of_isNew (new : table.IsNew) : table.Lived := fun point member =>
  (new.built point member).elim fun _ accepted => .built accepted

/-- A point that is found in a table of lived points has lived. -/
theorem get? (lived : table.Lived) {number : UInt32} {point : Point}
    (known : table.get? number = some point) : point.Lived :=
  lived point (List.mem_map_of_mem ((SortedMap.get?_eq_some_iff _ _ _).mp known))

/-- A table stays one of lived points if they are all replaced by such. -/
theorem mapValues (lived : table.Lived) {change : UInt32 -> Point -> Point}
    (kept : ∀ number point, point.Lived -> (change number point).Lived) :
    Lived { table with points := table.points.mapValues change } := by
  intro point member
  obtain ⟨_, changed, rfl⟩ := List.mem_map.mp member
  obtain ⟨entry, listed, rfl⟩ := List.mem_map.mp changed
  exact kept entry.1 entry.2 (lived _ (List.mem_map_of_mem listed))

/-- So it does if only the point under one number is changed. -/
theorem modify (lived : table.Lived) (number : UInt32) {change : Point -> Point}
    (kept : ∀ point, point.Lived -> (change point).Lived) :
    Lived { table with points := table.points.modify number change } := by
  refine lived.mapValues fun present point before => ?_
  split
  · exact kept point before
  · exact before

/-- A lived point can take the place of another one. -/
theorem set (lived : table.Lived) (number : UInt32) {point : Point} (replaces : point.Lived) :
    (table.set number point).Lived :=
  lived.modify number fun _ _ => replaces

/-- A tick reports about every point, which is to ask it. -/
theorem tick (lived : table.Lived) (registry : ClassRegistry) (now : Timestamp) :
    (table.tick registry now).2.Lived :=
  lived.mapValues fun _ _ before => before.report registry now

/-- A point that is asked for something past all services stays a lived one. -/
theorem handle (lived : table.Lived) (number : UInt32) (operation : Point.Operation) :
    (table.handle number operation).Lived :=
  lived.modify number fun _ before => before.asked operation

end Lived

end PointTable

section Members

variable {Member : Type} {holds : Member -> Prop} {property : Member -> Bool}
  {change : Member -> Member} {members : List Member}

/-- What all members have, and the changed first one has as well, all have after the change. -/
theorem forall_modifyFirst (all : ∀ member ∈ members, holds member)
    (kept : ∀ member ∈ members, holds (change member)) :
    ∀ member ∈ modifyFirst property change members, holds member := by
  induction members with
  | nil => exact all
  | cons first rest inductionHypothesis =>
      rw [List.forall_mem_cons] at all kept
      rw [modifyFirst]
      split
      · exact List.forall_mem_cons.mpr ⟨kept.1, all.2⟩
      · exact List.forall_mem_cons.mpr ⟨all.1, inductionHypothesis all.2 kept.2⟩

/-- The same holds when the last one is changed. -/
theorem forall_modifyLast (all : ∀ member ∈ members, holds member)
    (kept : ∀ member ∈ members, holds (change member)) :
    ∀ member ∈ modifyLast property change members, holds member := by
  intro member listed
  refine forall_modifyFirst ?_ ?_ member (List.mem_reverse.mp listed)
  · exact fun other there => all other (List.mem_reverse.mp there)
  · exact fun other there => kept other (List.mem_reverse.mp there)

/-- The same holds when the one at a place is changed. -/
theorem forall_modify (all : ∀ member ∈ members, holds member)
    (kept : ∀ member ∈ members, holds (change member)) (place : Nat) :
    ∀ member ∈ members.modify place change, holds member := by
  intro member listed
  obtain ⟨index, there⟩ := List.mem_iff_getElem?.mp listed
  rw [List.getElem?_modify] at there
  obtain ⟨old, found, rfl⟩ := Option.map_eq_some_iff.mp there
  have before := List.mem_of_getElem? found
  split
  · exact kept old before
  · exact all old before

end Members

/-- What all tables have, and the changed ones have as well, all have when the reporting ones
are changed. -/
theorem forall_modifyReporters {holds : PointTable -> Prop} {change : PointTable -> PointTable}
    {tables : List PointTable} (all : ∀ table ∈ tables, holds table)
    (kept : ∀ table ∈ tables, holds (change table)) (seen : List ObjectType) :
    ∀ table ∈ modifyReporters change seen tables, holds table := by
  induction tables generalizing seen with
  | nil => exact all
  | cons first rest inductionHypothesis =>
      rw [List.forall_mem_cons] at all kept
      rw [modifyReporters]
      split
      · exact List.forall_mem_cons.mpr ⟨all.1, inductionHypothesis all.2 kept.2 _⟩
      · exact List.forall_mem_cons.mpr ⟨kept.1, inductionHypothesis all.2 kept.2 _⟩

namespace Station

/-! ## Stations -/

/-- Ask the point with a number in the table at a place for something, past all services. -/
def handle (station : Station) (place : Nat) (number : UInt32) (operation : Point.Operation) :
    Station :=
  { station with tables := station.tables.modify place (·.handle number operation) }

/-- The states that a station can get into. -/
inductive Reached : Station -> Prop where
  /-- Tables that were filled with new points, with any classes, anywhere and at any time. -/
  | furnished {station : Station} (new : ∀ table ∈ station.tables, table.IsNew) :
      Reached station
  | underwent {station : Station} (reached : Reached station) (happening : Happening) :
      Reached (undergo station happening).2
  /-- Classes can come and go without a word to anyone. -/
  | regrouped {station : Station} (reached : Reached station) (registry : ClassRegistry) :
      Reached { station with registry }
  | handled {station : Station} (reached : Reached station) (place : Nat) (number : UInt32)
      (operation : Point.Operation) : Reached (station.handle place number operation)

/-- Whatever happens to a reached station, it stays one. -/
theorem Reached.through {station : Station} (reached : station.Reached)
    (happenings : List Happening) : (station.through happenings).Reached :=
  history_invariant (fun _ (state : Station) => state.Reached) reached
    (fun _ _ happening before => before.underwent happening) happenings

/-- Started stations are among the reached ones, whatever has happened to them since. -/
theorem reached_of_start {configuration : Configuration} {clock : Timestamp} {station : Station}
    {effects : List Effect} (started : start configuration clock = .ok (station, effects))
    (happenings : List Happening) : (station.through happenings).Reached := by
  obtain ⟨assembled, isAssembled, rfl⟩ := exists_assembled started
  rw [← through_asked]
  exact (Reached.furnished isAssembled.new).through _ |>.through happenings

/-! ### Every point is in its place -/

/-- What a point is asked for past all services moves nothing in the station. -/
theorem layout_handle (station : Station) (place : Nat) (number : UInt32)
    (operation : Point.Operation) : (station.handle place number operation).layout =
      station.layout := by
  refine List.ext_getElem? fun index => ?_
  rw [layout, layout, handle, List.getElem?_map, List.getElem?_map, List.getElem?_modify,
    Option.map_eq_map, Option.map_map]
  congr 1
  funext table
  rw [Function.comp_apply]
  split
  · exact table.layout_handle number operation
  · rfl

/-- Every point of a reached station is in its place. -/
theorem Reached.isProper {station : Station} (reached : station.Reached) : station.IsProper := by
  induction reached with
  | furnished new => exact isProper_of_filled fun table member => (new table member).filled
  | underwent _ happening inductionHypothesis =>
      rw [IsProper, layout_undergo]
      exact inductionHypothesis
  | regrouped _ _ inductionHypothesis => exact inductionHypothesis
  | handled _ place number operation inductionHypothesis =>
      rw [IsProper, layout_handle]
      exact inductionHypothesis

/-! ### Every point has lived -/

/-- A station of points that operations lead to. -/
def Lived (station : Station) : Prop := ∀ table ∈ station.tables, table.Lived

namespace Lived

variable {station : Station}

/-- The point that answers for an object has lived. -/
theorem point? (lived : station.Lived) {object : ObjectId} {point : Point}
    (known : station.point? object = some point) : point.Lived := by
  obtain ⟨table, found, there⟩ := Option.bind_eq_some_iff.mp known
  exact (lived table (List.mem_reverse.mp (List.mem_of_find?_eq_some found))).get? there

/-- A lived point can answer for an object in the place of another one. -/
theorem setPoint (lived : station.Lived) (object : ObjectId) {point : Point}
    (replaces : point.Lived) : (station.setPoint object point).Lived :=
  forall_modifyLast lived fun table member => (lived table member).set _ replaces

/-- Every operation asks points only for what they can be asked for. -/
theorem perform (lived : station.Lived) (operation : Operation) :
    (perform operation station).state.Lived := by
  have done := carried station operation
  generalize Station.perform operation station = outcome at done ⊢
  cases done with
  | refused | notAcked | swept | timed => exact lived
  | @commanded _ object asked point _ ladder _ _ _ known accepted records =>
      obtain ⟨⟨output, settings, rfl⟩, -⟩ := records
      have performed : (point.perform (.ladder asked)).2 = { point with ladder } := by
        rw [Point.perform, accepted]
      exact lived.setPoint object (performed ▸ (lived.point? known).asked (.ladder asked))
  | @served object value point _ _ known records =>
      obtain ⟨⟨output, settings, rfl⟩, -⟩ := records
      exact lived.setPoint object ((lived.point? known).asked (.ladder (.setOutOfService value)))
  | @trusted object reliability point known =>
      exact lived.setPoint object ((lived.point? known).asked (.setReliability reliability))
  | acknowledged found known granted =>
      have table := lived _ (List.mem_of_find?_eq_some found)
      exact forall_modifyFirst lived fun _ _ =>
        table.set _ ((table.get? known).acknowledge granted)
  | listed _ records =>
      obtain ⟨⟨output, settings, rfl⟩, -⟩ := records
      exact lived
  | ticked spreads =>
      obtain ⟨⟨sent, bus, rfl⟩, -⟩ := spreads
      exact forall_modifyReporters lived
        (fun table member => (lived table member).tick station.registry station.clock) []

end Lived

/-- Every point of a reached station has lived. -/
theorem Reached.lived {station : Station} (reached : station.Reached) : station.Lived := by
  induction reached with
  | furnished new => exact fun table member => .of_isNew (new table member)
  | underwent _ happening inductionHypothesis =>
      cases happening with
      | asked operation => exact inductionHypothesis.perform operation
      | surrounded surroundings => exact inductionHypothesis
  | regrouped _ _ inductionHypothesis => exact inductionHypothesis
  | handled _ place number operation inductionHypothesis =>
      exact forall_modify inductionHypothesis
        (fun table member => (inductionHypothesis table member).handle number operation) place

/-- The point that reports about an object has lived. -/
theorem Lived.reportedPoint? {station : Station} (lived : station.Lived) {object : ObjectId}
    {point : Point} (known : station.reportedPoint? object = some point) : point.Lived := by
  rw [reportedPoint?_eq_bind] at known
  obtain ⟨table, found, there⟩ := Option.bind_eq_some_iff.mp known
  exact (lived table (List.mem_of_find?_eq_some found)).get? there

end Station

end Annunciator
