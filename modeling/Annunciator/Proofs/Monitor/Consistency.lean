import Annunciator.Proofs.Monitor.Bookkeeping
import Annunciator.Proofs.Monitor.Replay

/-!
# Consistent monitors

A monitor keeps the moment of the last transition of every kind twice, once for those who ask and
once for acknowledgments, and beside it a wording, a count and an announcement that is left. No
type ties these together. `Consistent` says how they belong together: every operation keeps it,
so it holds whatever a monitor was asked.
-/

namespace Annunciator.Monitor

/-- A transition of a kind has been made, and its moment is kept. -/
def HasMade (monitor : Monitor) (kind : Transition) : Prop :=
  ∃ moment, monitor.timestamps.get kind = some moment

/-- The parts of a monitor belong together. -/
structure Consistent (monitor : Monitor) : Prop where
  /-- The state is normal, off-normal or a fault. -/
  placed : monitor.IsPlaced
  /-- The count does not go beyond the delay, and only runs out where there is none. -/
  remaining_le : monitor.remaining ≤ monitor.reporting.timeDelay
  remaining_eq_zero_iff : monitor.remaining = 0 ↔ monitor.reporting.timeDelay = 0
  /-- Both copies of the moments are the same. -/
  timestamps : ∀ kind, monitor.timestamps.get kind = (monitor.acks.get kind).timestamp
  /-- There is a wording exactly for the transitions that were made. -/
  messages : ∀ kind, monitor.messages.get kind = "" ↔ monitor.timestamps.get kind = none
  /-- Only what was made waits for an acknowledgment. -/
  waiting : ∀ kind, (monitor.acks.get kind).isAcked = false -> monitor.HasMade kind
  /-- A state other than the first one was entered by a transition. -/
  entered : ∀ kind : Transition, monitor.state = kind.target -> monitor.state ≠ .normal ->
    monitor.HasMade kind
  /-- The announcement that is left is about a transition that was made and is acknowledged. -/
  pending : ∀ state, monitor.pendingAck = some state ->
    ∃ kind : Transition, state = kind.target ∧ monitor.HasMade kind ∧
      (monitor.acks.get kind).isAcked = true

/-- No transition is without a wording, so an empty one means that none was made. -/
theorem transitionMessage_ne_empty (origin target : EventState) :
    transitionMessage origin target ≠ "" := by
  simp [transitionMessage]

/-- A new monitor is consistent: it is normal, and nothing has been made. -/
theorem Consistent.create (reporting : Reporting) : (create reporting).Consistent where
  placed := ⟨.toNormal, rfl⟩
  remaining_le := UInt32.le_refl _
  remaining_eq_zero_iff := Iff.rfl
  timestamps kind := by cases kind <;> rfl
  messages kind := iff_of_true (PerTransition.get_replicate "" kind)
    (PerTransition.get_replicate none kind)
  waiting kind waits := by cases kind <;> cases waits
  entered _ _ abnormal := absurd rfl abnormal
  pending _ left := nomatch left

namespace Consistent

variable {monitor : Monitor} (consistent : monitor.Consistent)
include consistent

/-- What waits for an acknowledgment has its moment in the books. -/
theorem known (kind : Transition) (waits : (monitor.acks.get kind).isAcked = false) :
    ∃ moment, (monitor.acks.get kind).timestamp = some moment := by
  rw [← consistent.timestamps]
  exact consistent.waiting kind waits

/-- A transition is entered into everything that is kept of its kind. -/
theorem fire (idle : monitor.pendingAck = none) (kind : Transition) (ackRequired : TransitionSet)
    (now : Timestamp) : (monitor.fire kind ackRequired now).2.Consistent where
  placed := ⟨kind, rfl⟩
  remaining_le := UInt32.le_refl _
  remaining_eq_zero_iff := Iff.rfl
  timestamps other := by
    rw [fire_timestamps, fire_acks]
    split
    · rfl
    · exact consistent.timestamps other
  messages other := by
    rw [fire_timestamps, fire_messages]
    split
    · exact iff_of_false (transitionMessage_ne_empty _ _) (Option.some_ne_none now)
    · exact consistent.messages other
  waiting other waits := by
    rw [HasMade, fire_timestamps]
    rw [fire_acks] at waits
    split
    · exact ⟨now, rfl⟩
    · next differ =>
        rw [if_neg differ] at waits
        exact consistent.waiting other waits
  entered other here _ := by
    rw [HasMade, fire_timestamps, if_pos (Transition.target_injective here)]
    exact ⟨now, rfl⟩
  pending state left := by
    rw [fire_pendingAck, idle] at left
    cases left

/-- A count that goes on neither runs out nor goes beyond the delay. -/
theorem countDown (more : 1 < monitor.remaining.toNat) :
    Consistent { monitor with remaining := countDown monitor.remaining } := by
  have counted := toNat_countDown monitor.remaining
  have bound := UInt32.le_iff_toNat_le.mp consistent.remaining_le
  refine { consistent with remaining_le := ?_, remaining_eq_zero_iff := iff_of_false ?_ ?_ }
  · rw [UInt32.le_iff_toNat_le]
    dsimp only
    omega
  · intro ranOut
    dsimp only at ranOut
    rw [ranOut, UInt32.toNat_zero] at counted
    omega
  · intro noDelay
    dsimp only at noDelay
    rw [noDelay, UInt32.toNat_zero] at bound
    omega

/-- A tick makes a transition, counts, or announces what was left. -/
theorem tick (conditions : Conditions) (ackRequired : TransitionSet) (now : Timestamp) :
    (monitor.tick conditions ackRequired now).2.Consistent := by
  have done := monitor.ticked conditions ackRequired now
  generalize monitor.tick conditions ackRequired now = result at done ⊢
  cases done with
  | announced => exact { consistent with pending := fun _ left => nomatch left }
  | failed idle | recovered idle | elapsed idle => exact consistent.fire idle _ ackRequired now
  | counted idle noFault leaving more => exact consistent.countDown more
  | reloaded =>
      exact { consistent with
        remaining_le := UInt32.le_refl _
        remaining_eq_zero_iff := Iff.rfl }
  | rested => exact consistent

/-- An acknowledgment that is granted settles what waited, and is left to announce. -/
theorem acknowledge (state : EventState) (timestamp : EventTimeStamp) :
    (monitor.perform (.acknowledge state timestamp)).2.Consistent := by
  have done := judged consistent.known state timestamp
  generalize monitor.perform (.acknowledge state timestamp) = result at done ⊢
  cases done with
  | @granted kind named grants =>
      have made := consistent.waiting kind grants.1
      refine { consistent with timestamps := ?_, waiting := ?_, pending := ?_ }
      · intro other
        rw [consistent.timestamps, AckTracker.get, AckTracker.get, PerTransition.get_set]
        split
        · next same => rw [← same, AckTracker.get]
        · rfl
      · intro other waits
        rw [AckTracker.get, PerTransition.get_set] at waits
        split at waits
        · cases waits
        · exact consistent.waiting other waits
      · intro _ left
        cases left
        refine ⟨kind, named, made, ?_⟩
        rw [AckTracker.get, PerTransition.get_set_self]
  | already | refused => exact consistent

/-- Every operation keeps a monitor consistent. -/
theorem perform (operation : Operation) : (monitor.perform operation).2.Consistent := by
  cases operation with
  | tick conditions ackRequired now => exact consistent.tick conditions ackRequired now
  | acknowledge state timestamp => exact consistent.acknowledge state timestamp
  | setTimeDelay ticks =>
      exact { consistent with
        remaining_le := UInt32.le_refl _
        remaining_eq_zero_iff := Iff.rfl }
  | setEventEnable | setNotifyType => exact { consistent with }

end Consistent

/-- A monitor is consistent after every run. -/
theorem consistent_after (reporting : Reporting) (operations : List Operation) :
    ((create reporting).after operations).Consistent :=
  invariant_of_step (fun _ => True) (fun _ monitor => monitor.Consistent) (.create reporting)
    (fun _ _ operation _ consistent => consistent.perform operation) operations fun _ _ => trivial

end Annunciator.Monitor
