import Annunciator.Configuration.Validity
import Mathlib.Data.List.Nodup

/-!
# What validity means

The flaws of a configuration are looked for one after the other, with what was met before
kept aside. A configuration without a flaw is one whose device, times and capacity can be
used, whose classes have distinct numbers and lists that fit, and whose points are about
distinct objects.
-/

namespace Annunciator.Configuration

/-- Everything that is asked of a configuration. -/
structure IsValid (configuration : Configuration) : Prop where
  device : configuration.device.isAssigned = true
  tickPeriod : configuration.tickMilliseconds ≠ 0
  sweepPeriod : configuration.sweepSeconds ≠ 0
  busCapacity : configuration.busCapacity ≠ 0
  numbers : (configuration.classes.map (·.number)).Nodup
  lists : ∀ entry ∈ configuration.classes, entry.recipients.length ≤ recipientCapacity
  objects : (configuration.points.map (·.object)).Nodup

/-- Nothing of a list is taken, and nothing occurs twice, if this is so of its first member and
of the rest while the first member is taken, too. -/
theorem nodup_and_free_cons_iff {Key : Type} {taken rest : List Key} {key : Key} :
    ((key :: rest).Nodup ∧ ∀ other ∈ key :: rest, other ∉ taken) ↔
      key ∉ taken ∧ rest.Nodup ∧ ∀ other ∈ rest, other ∉ key :: taken := by
  rw [List.nodup_cons, List.forall_mem_cons]
  simp only [List.mem_cons, not_or]
  constructor
  · rintro ⟨⟨fresh, distinct⟩, free, restFree⟩
    exact ⟨free, distinct, fun other member =>
      ⟨fun same => fresh (same ▸ member), restFree other member⟩⟩
  · rintro ⟨free, distinct, apart⟩
    exact ⟨⟨fun member => (apart key member).1 rfl, distinct⟩, free,
      fun other member => (apart other member).2⟩

/-- Classes have no flaw if their numbers are free and differ and their lists fit. -/
theorem classFlaw?_eq_none_iff {taken : List UInt32} {classes : List ClassEntry} :
    classFlaw? taken classes = none ↔
      ((classes.map (·.number)).Nodup ∧ ∀ number ∈ classes.map (·.number), number ∉ taken) ∧
        ∀ entry ∈ classes, entry.recipients.length ≤ recipientCapacity := by
  induction classes generalizing taken with
  | nil => simp [classFlaw?]
  | cons entry rest inductionHypothesis =>
      rw [classFlaw?, List.map_cons, nodup_and_free_cons_iff, List.forall_mem_cons]
      split
      · next known => simp [known]
      · next unknown =>
          split
          · next long => simp [Nat.not_le_of_lt long]
          · next short =>
              rw [inductionHypothesis]
              simp [unknown, Nat.le_of_not_lt short]

/-- Points have no flaw if their objects are free and differ. -/
theorem pointFlaw?_eq_none_iff {taken : List ObjectId} {points : List PointEntry} :
    pointFlaw? taken points = none ↔
      (points.map (·.object)).Nodup ∧ ∀ object ∈ points.map (·.object), object ∉ taken := by
  induction points generalizing taken with
  | nil => simp [pointFlaw?]
  | cons entry rest inductionHypothesis =>
      rw [pointFlaw?, List.map_cons, nodup_and_free_cons_iff]
      split
      · next known => simp [known]
      · next unknown =>
          rw [inductionHypothesis]
          simp [unknown]

/-- A configuration is valid if and only if no flaw is found. -/
theorem flaw?_eq_none_iff {configuration : Configuration} :
    configuration.flaw? = none ↔ configuration.IsValid := by
  have parts : configuration.flaw? = none ↔
      configuration.device.isAssigned = true ∧ configuration.tickMilliseconds ≠ 0 ∧
        configuration.sweepSeconds ≠ 0 ∧ configuration.busCapacity ≠ 0 ∧
          classFlaw? [] configuration.classes = none ∧
            pointFlaw? [] configuration.points = none := by
    rw [flaw?]
    split_ifs <;> simp_all
  rw [parts, classFlaw?_eq_none_iff, pointFlaw?_eq_none_iff]
  constructor
  · rintro ⟨device, tick, sweep, bus, ⟨⟨numbers, -⟩, lists⟩, objects, -⟩
    exact ⟨device, tick, sweep, bus, numbers, lists, objects⟩
  · rintro ⟨device, tick, sweep, bus, numbers, lists, objects⟩
    exact ⟨device, tick, sweep, bus, ⟨⟨numbers, fun _ _ => List.not_mem_nil⟩, lists⟩, objects,
      fun _ _ => List.not_mem_nil⟩

end Annunciator.Configuration
