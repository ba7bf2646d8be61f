import Annunciator.Proofs.Monitor.Announcements
import Annunciator.Proofs.Monitor.Replay

/-!
# The budget of announcements

An announcement takes a whole tick, on which nothing is evaluated. So nobody must be able to
call for as many of them as they like. Every announcement comes from an accepted
acknowledgment, and that one settles a transition which had to be acknowledged. What a monitor
owes are the transitions that still wait and the announcement that is left. Only a transition
adds to it, and every announcement is paid from it.
-/

namespace Annunciator

namespace AckTracker

/-- The number of kinds whose last transition waits for an acknowledgment. -/
def waiting (tracker : AckTracker) : Nat :=
  Transition.all.countP fun kind => !(tracker.get kind).isAcked

/-- At most one transition of each kind waits. -/
theorem waiting_le (tracker : AckTracker) : tracker.waiting ≤ 3 := List.countP_le_length

/-- An entry counts in the place of the one that it replaces. -/
theorem waiting_set (tracker : AckTracker) (kind : Transition) (entry : AckedTransition) :
    waiting ⟨tracker.entries.set kind entry⟩ + (!(tracker.get kind).isAcked).toNat =
      tracker.waiting + (!entry.isAcked).toNat := by
  have unfolded : ∀ tracker : AckTracker, tracker.waiting =
      (!tracker.entries.toOffnormal.isAcked).toNat + (!tracker.entries.toFault.isAcked).toNat +
        (!tracker.entries.toNormal.isAcked).toNat := fun ⟨⟨first, second, third⟩⟩ => by
    obtain ⟨_ | _, _⟩ := first <;> obtain ⟨_ | _, _⟩ := second <;> obtain ⟨_ | _, _⟩ := third <;>
      rfl
  rw [unfolded, unfolded]
  cases kind with
  | toOffnormal | toFault | toNormal =>
      simp only [PerTransition.set, get, PerTransition.get]
      omega

/-- As long as one kind is acknowledged, at most the two others wait. -/
theorem waiting_le_of_acked {tracker : AckTracker} {kind : Transition}
    (acked : (tracker.get kind).isAcked = true) : tracker.waiting ≤ 2 := by
  -- If the entry waited, there would be one more.
  have reopened := tracker.waiting_set kind ⟨false, none⟩
  have bound := waiting_le ⟨tracker.entries.set kind ⟨false, none⟩⟩
  rw [acked] at reopened
  simp only [Bool.not_true, Bool.not_false, Bool.toNat_false, Bool.toNat_true] at reopened
  omega

/-- An entry that is acknowledged does not wait any more. -/
theorem waiting_acknowledge {tracker : AckTracker} {kind : Transition}
    (waits : (tracker.get kind).isAcked = false) :
    waiting ⟨tracker.entries.set kind ⟨true, (tracker.get kind).timestamp⟩⟩ + 1 =
      tracker.waiting := by
  have settled := tracker.waiting_set kind ⟨true, (tracker.get kind).timestamp⟩
  rw [waits] at settled
  exact settled

/-- An acknowledgment that is granted settles a transition that waited. -/
theorem of_acknowledged {tracker after : AckTracker} {state current : EventState}
    {timestamp : EventTimeStamp}
    (granted : tracker.acknowledge state current timestamp = .ok (.acknowledged, after)) :
    ∃ kind, state = kind.target ∧ (tracker.get kind).isAcked = false ∧
      after = ⟨tracker.entries.set kind { tracker.get kind with isAcked := true }⟩ := by
  simp only [acknowledge] at granted
  split at granted
  · cases granted
  · next kind entered =>
      split at granted
      · split at granted <;> cases granted
      · next waits =>
          split at granted
          · cases granted
          · split at granted
            · cases granted
            · cases granted
              exact ⟨kind, Transition.entering?_eq_some_iff.mp entered,
                Bool.eq_false_iff.mpr waits, rfl⟩

end AckTracker

namespace Monitor

/-! ## What a step does to what is left -/

/-- Everything that a step can do to what is left to acknowledge and to announce. -/
inductive Settles (monitor : Monitor) : Step -> Monitor -> Prop where
  | made {kind : Transition} {conditions : Conditions} {ackRequired : TransitionSet}
      {now : Timestamp} (idle : monitor.pendingAck = none) :
      Settles monitor
        ⟨.tick conditions ackRequired now, .event (monitor.fire kind ackRequired now).1⟩
        (monitor.fire kind ackRequired now).2
  | announced {state : EventState} {conditions : Conditions} {ackRequired : TransitionSet}
      {now : Timestamp} (pending : monitor.pendingAck = some state) :
      Settles monitor
        ⟨.tick conditions ackRequired now, .event (some (.acknowledged state))⟩
        { monitor with pendingAck := none }
  | granted {kind : Transition} {timestamp : EventTimeStamp}
      (waits : (monitor.acks.get kind).isAcked = false) :
      Settles monitor ⟨.acknowledge kind.target timestamp, .acked .acknowledged⟩
        { monitor with
          acks := ⟨monitor.acks.entries.set kind { monitor.acks.get kind with isAcked := true }⟩
          pendingAck := some kind.target }
  | left {step : Step} {after : Monitor} (sameAcks : after.acks = monitor.acks)
      (samePending : after.pendingAck = monitor.pendingAck) (noMove : step.move? = none)
      (notAccepted : step.accepted? = none) (notAnnounced : step.announced? = none) :
      Settles monitor step after

/-- A tick announces what is left, or makes a transition while nothing is left, or leaves both
accounts alone. -/
theorem settles_tick (monitor : Monitor) (conditions : Conditions) (ackRequired : TransitionSet)
    (now : Timestamp) :
    Settles monitor
      ⟨.tick conditions ackRequired now, .event (monitor.tick conditions ackRequired now).1⟩
      (monitor.tick conditions ackRequired now).2 := by
  have done := monitor.ticked conditions ackRequired now
  generalize monitor.tick conditions ackRequired now = result at done ⊢
  cases done with
  | announced pending => exact .announced pending
  | failed idle | recovered idle | elapsed idle => exact .made idle
  | counted | reloaded | rested => exact .left rfl rfl rfl rfl rfl

/-- Only an acknowledgment that is accepted for a transition that waits changes the accounts. -/
theorem settles_acknowledge (monitor : Monitor) (state : EventState)
    (timestamp : EventTimeStamp) :
    Settles monitor
      ⟨.acknowledge state timestamp, (monitor.perform (.acknowledge state timestamp)).1⟩
      (monitor.perform (.acknowledge state timestamp)).2 := by
  simp only [perform, acknowledge]
  cases result : monitor.acks.acknowledge state monitor.state timestamp with
  | error error => exact .left rfl rfl rfl rfl rfl
  | ok answered =>
      obtain ⟨outcome, acks⟩ := answered
      cases outcome with
      | acknowledged =>
          obtain ⟨kind, rfl, waits, rfl⟩ := AckTracker.of_acknowledged result
          exact .granted waits
      | alreadyAcknowledged =>
          cases acks_unchanged_of_alreadyAcknowledged result
          exact .left rfl rfl rfl rfl rfl

/-- A step does nothing beyond what `Settles` lists. -/
theorem settles (monitor : Monitor) (operation : Operation) :
    Settles monitor ⟨operation, (monitor.perform operation).1⟩ (monitor.perform operation).2 := by
  cases operation with
  | tick conditions ackRequired now => exact monitor.settles_tick conditions ackRequired now
  | acknowledge state timestamp => exact monitor.settles_acknowledge state timestamp
  | setTimeDelay | setEventEnable | setNotifyType => exact .left rfl rfl rfl rfl rfl

/-! ## Announcements that are left -/

/-- An announcement that is left is about a transition that is acknowledged. -/
def AnnouncesAcked (monitor : Monitor) : Prop :=
  ∀ state, monitor.pendingAck = some state ->
    ∃ kind : Transition, state = kind.target ∧ (monitor.acks.get kind).isAcked = true

/-- A new monitor has nothing to announce. -/
theorem AnnouncesAcked.create (reporting : Reporting) : AnnouncesAcked (create reporting) :=
  fun _ pending => nomatch pending

/-- A transition takes place only when nothing is left to announce, so what is left stays
acknowledged. -/
theorem Settles.announcesAcked {monitor after : Monitor} {step : Step}
    (done : Settles monitor step after) (sound : monitor.AnnouncesAcked) :
    after.AnnouncesAcked := by
  intro state pending
  cases done with
  | made idle =>
      rw [fire_pendingAck, idle] at pending
      cases pending
  | announced => cases pending
  | @granted kind _ waits =>
      cases pending
      refine ⟨kind, rfl, ?_⟩
      rw [AckTracker.get, PerTransition.get_set_self]
  | left sameAcks samePending =>
      rw [samePending] at pending
      rw [sameAcks]
      exact sound state pending

/-- Whatever is left to announce after a run is acknowledged. -/
theorem AnnouncesAcked.after {monitor : Monitor} (sound : monitor.AnnouncesAcked)
    (operations : List Operation) : (monitor.after operations).AnnouncesAcked := by
  induction operations generalizing monitor with
  | nil => exact sound
  | cons operation rest inductionHypothesis =>
      exact inductionHypothesis ((monitor.settles operation).announcesAcked sound)

/-! ## What a monitor owes -/

/-- The announcements that can still come up before another transition does: one for every
transition that waits, and the one that is left. -/
def owed (monitor : Monitor) : Nat :=
  monitor.acks.waiting + monitor.pendingAck.toList.length

/-- What is left to announce does not wait any more, so it is among three in all. -/
theorem AnnouncesAcked.owed_le {monitor : Monitor} (sound : monitor.AnnouncesAcked) :
    monitor.owed ≤ 3 := by
  rw [owed]
  cases pending : monitor.pendingAck with
  | none => exact monitor.acks.waiting_le
  | some state =>
      obtain ⟨kind, -, acked⟩ := sound state pending
      have others := AckTracker.waiting_le_of_acked acked
      rw [Option.toList_some, List.length_singleton]
      omega

/-- A step without a transition pays for its announcement. -/
theorem Settles.announced_add_owed_le {monitor after : Monitor} {step : Step}
    (done : Settles monitor step after) (still : step.move? = none) :
    step.announced?.toList.length + after.owed ≤ monitor.owed := by
  cases done with
  | made => cases still
  | announced pending =>
      simp only [owed, pending, Step.announced?, Option.toList_some, Option.toList_none,
        List.length_singleton, List.length_nil]
      omega
  | @granted kind _ waits =>
      have settled := AckTracker.waiting_acknowledge waits
      simp only [owed, Step.announced?, Option.toList_some, Option.toList_none,
        List.length_singleton, List.length_nil]
      omega
  | left sameAcks samePending _ _ notAnnounced =>
      rw [notAnnounced, owed, sameAcks, samePending, owed, Option.toList_none, List.length_nil,
        Nat.zero_add]

/-- A stretch without a transition pays for its announcements. -/
theorem announced_add_owed_le (monitor : Monitor) (operations : List Operation)
    (still : moves (monitor.history operations) = []) :
    (announced (monitor.history operations)).length + (monitor.after operations).owed ≤
      monitor.owed := by
  induction operations using List.reverseRecOn with
  | nil => exact Nat.le_of_eq (Nat.zero_add _)
  | append_singleton earlier operation inductionHypothesis =>
      rw [history_append, history_singleton, moves_concat, List.append_eq_nil_iff] at still
      have before := inductionHypothesis still.1
      have step := ((monitor.after earlier).settles operation).announced_add_owed_le
        (Option.toList_eq_nil_iff.mp still.2)
      rw [history_append, history_singleton, announced_concat, List.length_append, after_append,
        after_singleton]
      omega

/-! ## What has to be acknowledged -/

/-- The kind of the transition that a step made, if it had to be acknowledged. -/
def Step.demanded? : Step -> Option Transition
  | ⟨.tick _ ackRequired _, .event (some (.transition _ target))⟩ =>
      (Transition.entering? target).filter ackRequired.contains
  | _ => none

/-- The kinds of the transitions of a history that had to be acknowledged, oldest first. -/
def demanded (steps : List Step) : List Transition := steps.filterMap Step.demanded?

theorem demanded_concat (steps : List Step) (step : Step) :
    demanded (steps ++ [step]) = demanded steps ++ step.demanded?.toList :=
  filterMap_concat Step.demanded? steps step

/-- Every acknowledgment that a step accepts was demanded before, and every transition that
waits after it was, too. -/
theorem Settles.accepted_add_waiting_le {monitor after : Monitor} {step : Step}
    (done : Settles monitor step after) :
    step.accepted?.toList.length + after.acks.waiting ≤
      monitor.acks.waiting + step.demanded?.toList.length := by
  cases done with
  | @made kind conditions ackRequired now idle =>
      have entered := monitor.acks.waiting_set kind ⟨!ackRequired.contains kind, some now⟩
      have demands : (Step.demanded? ⟨.tick conditions ackRequired now,
          .event (monitor.fire kind ackRequired now).1⟩).toList.length =
            (ackRequired.contains kind).toNat := by
        rw [fire_event, Step.demanded?, Transition.entering?_target]
        cases required : ackRequired.contains kind <;> simp [Option.filter, required]
      rw [demands]
      rw [Bool.not_not] at entered
      change 0 + AckTracker.waiting ⟨monitor.acks.entries.set kind _⟩ ≤ _
      omega
  | announced => exact Nat.le_of_eq (Nat.zero_add _)
  | @granted kind _ waits =>
      have settled := AckTracker.waiting_acknowledge waits
      simp only [Step.accepted?, Option.toList_some, List.length_singleton]
      omega
  | left sameAcks _ _ notAccepted =>
      rw [notAccepted, sameAcks, Option.toList_none, List.length_nil, Nat.zero_add]
      exact Nat.le_add_right _ _

/-- Whatever is acknowledged or still waits was demanded. -/
theorem accepted_add_waiting_le (reporting : Reporting) (operations : List Operation) :
    (accepted ((create reporting).history operations)).length +
        ((create reporting).after operations).acks.waiting ≤
      (demanded ((create reporting).history operations)).length := by
  refine invariant_of_step (fun _ => True)
    (fun steps monitor => (accepted steps).length + monitor.acks.waiting ≤ (demanded steps).length)
    ?_ ?_ operations fun _ _ => trivial
  · exact Nat.le_refl 0
  · intro steps monitor operation _ before
    have step := (monitor.settles operation).accepted_add_waiting_le
    rw [accepted_concat, demanded_concat, List.length_append, List.length_append]
    omega

/-! ## The budget -/

/-- A part of a history is the history of a part of the operations. -/
theorem exists_of_history_eq_append {monitor : Monitor} {operations : List Operation}
    {earlier later : List Step} (split : monitor.history operations = earlier ++ later) :
    ∃ first last, monitor.history first = earlier ∧
      (monitor.after first).history last = later := by
  induction earlier generalizing monitor operations with
  | nil => exact ⟨[], operations, rfl, split⟩
  | cons step rest inductionHypothesis =>
      cases operations with
      | nil => cases split
      | cons operation others =>
          obtain ⟨rfl, tail⟩ := List.cons_eq_cons.mp split
          obtain ⟨first, last, before, after⟩ := inductionHypothesis tail
          exact ⟨operation :: first, last, by rw [history, before], after⟩

/-- Announcements cannot take the place of evaluation for long. Whatever a monitor is asked, it
announces at most as many acknowledgments as it accepts, and accepts at most as many as it made
transitions that had to be acknowledged. And wherever a stretch of its history makes no
transition, at most three ticks of the stretch announce an acknowledgment. -/
theorem announcements_bounded (reporting : Reporting) (operations : List Operation) :
    (announced ((create reporting).history operations)).length ≤
        (accepted ((create reporting).history operations)).length ∧
    (accepted ((create reporting).history operations)).length ≤
        (demanded ((create reporting).history operations)).length ∧
    ∀ stretch, stretch <:+: (create reporting).history operations -> moves stretch = [] ->
      (announced stretch).length ≤ 3 := by
  refine ⟨?_, ?_, ?_⟩
  · have accounts := announcing_after reporting operations
    by_cases separated : Separated ((create reporting).history operations)
    · rw [← accounts.complete separated, List.length_append]
      exact Nat.le_add_right _ _
    · have missing := accounts.lossy separated
      omega
  · have covered := accepted_add_waiting_le reporting operations
    omega
  · rintro stretch ⟨earlier, later, split⟩ still
    rw [List.append_assoc] at split
    obtain ⟨first, others, -, remainder⟩ := exists_of_history_eq_append split.symm
    obtain ⟨middle, last, rfl, -⟩ := exists_of_history_eq_append remainder
    have paid := announced_add_owed_le ((create reporting).after first) middle still
    have bound := ((AnnouncesAcked.create reporting).after first).owed_le
    omega

/-- Three announcements between two transitions do come up: here all three kinds of
transitions wait for an acknowledgment, and each is acknowledged before a tick. -/
example :
    let acknowledge (state : EventState) : List Operation :=
      [.acknowledge state (.dateTime .noon), alarmTick false false]
    let opening := [alarmTick true false, alarmTick true true, alarmTick true false]
    let closing := acknowledge .offnormal ++ acknowledge .fault ++ acknowledge .normal
    moves (((create .standard).after opening).history closing) = [] ∧
      announced (((create .standard).after opening).history closing) =
        [.offnormal, .fault, .normal] := by
  decide

end Monitor

end Annunciator
