import Annunciator.Monitor
import Annunciator.Proofs.Histories
import Mathlib.Data.List.Chain
import Mathlib.Data.List.DropRight

/-!
# Histories of a monitor

What a monitor was asked and what it answered, oldest first, beside the state that
it got into. `Ticked` lists everything that a tick can do and
`perform_acknowledge_cases` everything that an acknowledgment can do, so that an
invariant is checked case by case and no proof opens the tick again.
-/

namespace Annunciator.Monitor

/-! ## Single steps -/

/-- The timed transition out of a state. -/
def exitKind? : EventState -> Option Transition
  | .normal => some .toOffnormal
  | .offnormal => some .toNormal
  | _ => none

/-- Whether the off-normal signal calls for the timed transition out of a state. -/
def leaveSignal (state : EventState) (conditions : Conditions) : Bool :=
  match state with
  | .normal => conditions.offnormal
  | .offnormal => !conditions.offnormal
  | _ => false

/-- Whether the timed transition out of a state is called for and may happen. -/
def leaveHolds (reporting : Reporting) (state : EventState) (conditions : Conditions) : Bool :=
  leaveSignal state conditions && (exitKind? state).any reporting.eventEnable.contains

/-- A fault has come up, and the transition for it may happen. -/
def FaultRaised (reporting : Reporting) (state : EventState) (conditions : Conditions) : Prop :=
  conditions.fault = true ∧ state ≠ .fault ∧ reporting.eventEnable.contains .toFault = true

/-- The fault is over, and the transition back may happen. -/
def FaultCleared (reporting : Reporting) (state : EventState) (conditions : Conditions) : Prop :=
  conditions.fault = false ∧ state = .fault ∧ reporting.eventEnable.contains .toNormal = true

/-- A state is never left at once by the clock and by the end of a fault. -/
theorem exitKind?_eq_none_of_faultCleared {reporting : Reporting} {state : EventState}
    {conditions : Conditions} (cleared : FaultCleared reporting state conditions) :
    exitKind? state = none := by
  rw [cleared.2.1]
  rfl

/-- A state without a timed transition is not left by one. -/
theorem leaveHolds_eq_false {reporting : Reporting} {state : EventState}
    {conditions : Conditions} (noExit : exitKind? state = none) :
    leaveHolds reporting state conditions = false := by
  simp [leaveHolds, noExit]

/-- A count that has run out stays at 0. -/
theorem toNat_countDown (ticks : UInt32) : (countDown ticks).toNat = ticks.toNat - 1 := by
  unfold countDown
  split
  · next zero => simp [zero]
  · next positive =>
      have nonzero : ticks.toNat ≠ 0 := fun zero => positive (UInt32.toNat_inj.mp zero)
      rw [UInt32.toNat_sub_of_le]
      · rfl
      · rw [UInt32.le_iff_toNat_le]
        change 1 ≤ ticks.toNat
        omega

section Fire

variable (monitor : Monitor) (kind : Transition) (ackRequired : TransitionSet) (now : Timestamp)

@[simp] theorem fire_event :
    (monitor.fire kind ackRequired now).1 = some (.transition monitor.state kind.target) := rfl

@[simp] theorem fire_reporting :
    (monitor.fire kind ackRequired now).2.reporting = monitor.reporting := rfl

@[simp] theorem fire_pendingAck :
    (monitor.fire kind ackRequired now).2.pendingAck = monitor.pendingAck := rfl

/-- A transition replaces the moment of its own kind and of no other. -/
theorem fire_timestamps (other : Transition) :
    (monitor.fire kind ackRequired now).2.timestamps.get other =
      if kind = other then some now else monitor.timestamps.get other :=
  PerTransition.get_set _ kind other _

/-- A transition replaces the wording of its own kind and of no other. -/
theorem fire_messages (other : Transition) :
    (monitor.fire kind ackRequired now).2.messages.get other =
      if kind = other then transitionMessage monitor.state kind.target
      else monitor.messages.get other :=
  PerTransition.get_set _ kind other _

/-- A transition waits for an acknowledgment if one is required, and lets the other kinds wait
as before. -/
theorem fire_acks (other : Transition) :
    (monitor.fire kind ackRequired now).2.acks.get other =
      if kind = other then ⟨!ackRequired.contains kind, some now⟩ else monitor.acks.get other :=
  PerTransition.get_set _ kind other _

end Fire

/-- Everything that a tick can do, with what has to be the case for it. -/
inductive Ticked (monitor : Monitor) (conditions : Conditions) (ackRequired : TransitionSet)
    (now : Timestamp) : Option MonitorEvent × Monitor -> Prop where
  | announced {state : EventState} (pending : monitor.pendingAck = some state) :
      Ticked monitor conditions ackRequired now
        (some (.acknowledged state), { monitor with pendingAck := none })
  | failed (idle : monitor.pendingAck = none)
      (raised : FaultRaised monitor.reporting monitor.state conditions) :
      Ticked monitor conditions ackRequired now (monitor.fire .toFault ackRequired now)
  | recovered (idle : monitor.pendingAck = none)
      (cleared : FaultCleared monitor.reporting monitor.state conditions) :
      Ticked monitor conditions ackRequired now (monitor.fire .toNormal ackRequired now)
  | elapsed (idle : monitor.pendingAck = none)
      (noFault : ¬ FaultRaised monitor.reporting monitor.state conditions)
      {kind : Transition} (exit : exitKind? monitor.state = some kind)
      (leaving : leaveHolds monitor.reporting monitor.state conditions = true)
      (last : monitor.remaining.toNat ≤ 1) :
      Ticked monitor conditions ackRequired now (monitor.fire kind ackRequired now)
  | counted (idle : monitor.pendingAck = none)
      (noFault : ¬ FaultRaised monitor.reporting monitor.state conditions)
      (leaving : leaveHolds monitor.reporting monitor.state conditions = true)
      (more : 1 < monitor.remaining.toNat) :
      Ticked monitor conditions ackRequired now
        (none, { monitor with remaining := countDown monitor.remaining })
  | reloaded (idle : monitor.pendingAck = none)
      (noFault : ¬ FaultRaised monitor.reporting monitor.state conditions)
      {kind : Transition} (exit : exitKind? monitor.state = some kind)
      (staying : leaveHolds monitor.reporting monitor.state conditions = false) :
      Ticked monitor conditions ackRequired now
        (none, { monitor with remaining := monitor.reporting.timeDelay })
  | rested (idle : monitor.pendingAck = none)
      (noFault : ¬ FaultRaised monitor.reporting monitor.state conditions)
      (notCleared : ¬ FaultCleared monitor.reporting monitor.state conditions)
      (noExit : exitKind? monitor.state = none) :
      Ticked monitor conditions ackRequired now (none, monitor)

/-- The timed part of a tick does what `Ticked` says. -/
theorem ticked_countTick (monitor : Monitor) (conditions : Conditions)
    (ackRequired : TransitionSet) (now : Timestamp) (idle : monitor.pendingAck = none)
    (noFault : ¬ FaultRaised monitor.reporting monitor.state conditions)
    (notCleared : ¬ FaultCleared monitor.reporting monitor.state conditions) :
    Ticked monitor conditions ackRequired now
      (monitor.countTick conditions.offnormal ackRequired now) := by
  have exits : timedExit? monitor.state conditions.offnormal =
      (exitKind? monitor.state).map fun kind => (kind, leaveSignal monitor.state conditions) := by
    cases monitor.state <;> rfl
  rw [countTick, exits]
  cases exit : exitKind? monitor.state with
  | none => exact .rested idle noFault notCleared exit
  | some kind =>
      have holds : leaveHolds monitor.reporting monitor.state conditions =
          (leaveSignal monitor.state conditions && monitor.allows kind) := by
        simp [leaveHolds, exit, allows]
      simp only [Option.map_some]
      split
      · next leaving =>
          have counts : (countDown monitor.remaining).toNat = monitor.remaining.toNat - 1 :=
            toNat_countDown monitor.remaining
          split
          · next zero =>
              -- The delay is over: firing overwrites the count that was just made.
              refine .elapsed idle noFault exit (holds.trans leaving) ?_
              rw [zero] at counts
              change 0 = _ at counts
              omega
          · next positive =>
              refine .counted idle noFault (holds.trans leaving) ?_
              have nonzero : (countDown monitor.remaining).toNat ≠ 0 :=
                fun zero => positive (UInt32.toNat_inj.mp zero)
              omega
      · next staying =>
          exact .reloaded idle noFault exit (holds.trans (Bool.eq_false_iff.mpr staying))

/-- A tick does nothing beyond what `Ticked` lists. -/
theorem ticked (monitor : Monitor) (conditions : Conditions) (ackRequired : TransitionSet)
    (now : Timestamp) :
    Ticked monitor conditions ackRequired now (monitor.tick conditions ackRequired now) := by
  rw [tick]
  split
  · next state pending => exact .announced pending
  · next idle =>
      rw [evaluate]
      split
      · next inFault =>
          have noFault : ¬ FaultRaised monitor.reporting monitor.state conditions :=
            fun raised => raised.2.1 inFault
          split
          · next cleared =>
              simp only [Bool.and_eq_true, Bool.not_eq_true'] at cleared
              exact .recovered idle ⟨cleared.1, inFault, cleared.2⟩
          · next kept =>
              refine .rested idle noFault ?_ (by rw [inFault]; rfl)
              rintro ⟨ended, -, enabled⟩
              exact kept (by simp [ended, allows, enabled])
      · next elsewhere =>
          split
          · next raised =>
              simp only [Bool.and_eq_true] at raised
              exact .failed idle ⟨raised.1, elsewhere, raised.2⟩
          · next quiet =>
              refine ticked_countTick monitor conditions ackRequired now idle ?_ ?_
              · rintro ⟨signal, -, enabled⟩
                exact quiet (by simp [signal, allows, enabled])
              · exact fun cleared => elsewhere cleared.2.1

/-- A tick answers with the event that it brought about. -/
theorem perform_tick (monitor : Monitor) (conditions : Conditions)
    (ackRequired : TransitionSet) (now : Timestamp) :
    monitor.perform (.tick conditions ackRequired now) =
      (.event (monitor.tick conditions ackRequired now).1,
        (monitor.tick conditions ackRequired now).2) := rfl

/-- A tick leaves the settings alone. -/
theorem reporting_tick (monitor : Monitor) (conditions : Conditions)
    (ackRequired : TransitionSet) (now : Timestamp) :
    (monitor.tick conditions ackRequired now).2.reporting = monitor.reporting := by
  have done := monitor.ticked conditions ackRequired now
  generalize monitor.tick conditions ackRequired now = result at done ⊢
  cases done <;> rfl

/-- What was acknowledged before is left as it is. -/
theorem acks_unchanged_of_alreadyAcknowledged {tracker after : AckTracker}
    {state current : EventState} {timestamp : EventTimeStamp}
    (already : tracker.acknowledge state current timestamp = .ok (.alreadyAcknowledged, after)) :
    after = tracker := by
  simp only [AckTracker.acknowledge] at already
  split at already
  · cases already
  · split at already
    · split at already
      · cases already
        rfl
      · cases already
    · split at already
      · cases already
      · split at already <;> cases already

/-- An acknowledgment is either accepted, and then waits to be announced, or leaves
the monitor as it is. -/
theorem perform_acknowledge_cases (monitor : Monitor) (state : EventState)
    (timestamp : EventTimeStamp) :
    (∃ acks, monitor.perform (.acknowledge state timestamp) =
      (.acked .acknowledged, { monitor with acks, pendingAck := some state })) ∨
    (∃ answer, answer ≠ .acked .acknowledged ∧
      monitor.perform (.acknowledge state timestamp) = (answer, monitor)) := by
  simp only [perform, acknowledge]
  cases result : monitor.acks.acknowledge state monitor.state timestamp with
  | error error => exact .inr ⟨.notAcked error, by simp, rfl⟩
  | ok granted =>
      obtain ⟨outcome, acks⟩ := granted
      cases outcome with
      | acknowledged => exact .inl ⟨acks, rfl⟩
      | alreadyAcknowledged =>
          cases acks_unchanged_of_alreadyAcknowledged result
          exact .inr ⟨.acked .alreadyAcknowledged, by simp, rfl⟩

/-! ## Runs -/

/-- One operation that a monitor carried out, and its answer. -/
structure Step where
  operation : Operation
  answer : Answer
  deriving DecidableEq, Repr

/-- The monitor after some operations. -/
def after (monitor : Monitor) (operations : List Operation) : Monitor :=
  operations.foldl (fun monitor operation => (monitor.perform operation).2) monitor

/-- The steps that some operations make, oldest first. -/
def history (monitor : Monitor) : List Operation -> List Step
  | [] => []
  | operation :: rest =>
      ⟨operation, (monitor.perform operation).1⟩ ::
        (monitor.perform operation).2.history rest

@[simp] theorem after_append (monitor : Monitor) (earlier later : List Operation) :
    monitor.after (earlier ++ later) = (monitor.after earlier).after later :=
  List.foldl_append

@[simp] theorem after_singleton (monitor : Monitor) (operation : Operation) :
    monitor.after [operation] = (monitor.perform operation).2 := rfl

@[simp] theorem history_singleton (monitor : Monitor) (operation : Operation) :
    monitor.history [operation] = [⟨operation, (monitor.perform operation).1⟩] := rfl

/-- A history goes on from the monitor that its first part leads to. -/
@[simp] theorem history_append (monitor : Monitor) (earlier later : List Operation) :
    monitor.history (earlier ++ later) =
      monitor.history earlier ++ (monitor.after earlier).history later := by
  induction earlier generalizing monitor with
  | nil => rfl
  | cons operation rest inductionHypothesis =>
      change _ :: history _ (rest ++ later) = _
      rw [inductionHypothesis]
      rfl

/-- A relation between histories and monitors that holds at the start and is kept by
every operation of some kind holds after every run of such operations. -/
theorem invariant_of_step {start : Monitor} (allowed : Operation -> Prop)
    (invariant : List Step -> Monitor -> Prop) (initial : invariant [] start)
    (step : ∀ steps monitor operation, allowed operation -> invariant steps monitor ->
      invariant (steps ++ [⟨operation, (monitor.perform operation).1⟩])
        (monitor.perform operation).2)
    (operations : List Operation) (all : ∀ operation ∈ operations, allowed operation) :
    invariant (start.history operations) (start.after operations) := by
  induction operations using List.reverseRecOn with
  | nil => exact initial
  | append_singleton earlier operation inductionHypothesis =>
      have before := inductionHypothesis fun operation member =>
        all operation (List.mem_append_left _ member)
      simpa using step _ _ operation (all operation (by simp)) before

/-! ## The ticks of a history -/

/-- One tick of a history: the signals it was given and what it brought about. -/
structure Tick where
  conditions : Conditions
  event : Option MonitorEvent
  deriving DecidableEq, Repr

/-- A tick that announces an acknowledgment does not look at its signals. All others
are evaluated. -/
def Tick.isEvaluated (tick : Tick) : Bool :=
  match tick.event with
  | some (.acknowledged _) => false
  | _ => true

/-- The tick that a step is, if it is one. -/
def Step.tick? : Step -> Option Tick
  | ⟨.tick conditions _ _, .event event⟩ => some ⟨conditions, event⟩
  | _ => none

/-- The ticks of a history, oldest first. -/
def ticks (steps : List Step) : List Tick := steps.filterMap Step.tick?

/-- The ticks of a history that announced no acknowledgment, oldest first. -/
def evaluatedTicks (steps : List Step) : List Tick := (ticks steps).filter Tick.isEvaluated

/-- A tick is added to the evaluated ticks unless it announces an acknowledgment. -/
theorem evaluatedTicks_concat_tick (steps : List Step) (conditions : Conditions)
    (ackRequired : TransitionSet) (now : Timestamp) (event : Option MonitorEvent) :
    evaluatedTicks (steps ++ [⟨.tick conditions ackRequired now, .event event⟩]) =
      evaluatedTicks steps ++ [⟨conditions, event⟩].filter Tick.isEvaluated := by
  simp [evaluatedTicks, ticks, Step.tick?, List.filter_append]

/-- An acknowledgment is no tick. -/
theorem ticks_concat_acknowledge (steps : List Step) (state : EventState)
    (timestamp : EventTimeStamp) (answer : Answer) :
    ticks (steps ++ [⟨.acknowledge state timestamp, answer⟩]) = ticks steps := by
  simp [ticks, Step.tick?]

end Annunciator.Monitor
