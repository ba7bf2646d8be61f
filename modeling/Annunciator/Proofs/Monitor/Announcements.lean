import Annunciator.Proofs.Monitor.History

/-!
# Announcements of acknowledgments

An accepted acknowledgment is announced by the next tick, but a monitor keeps one
announcement only: of several acknowledgments that are accepted before the next tick
the last one is announced and the others never are. `Announcing` keeps the accounts
of a history, and from it follows exactly when nothing is lost.
-/

namespace Annunciator.Monitor

/-- Whether an operation is a tick. -/
def Operation.isTick : Operation -> Bool
  | .tick .. => true
  | _ => false

/-- Whether an operation is an acknowledgment. -/
def Operation.isAcknowledgment : Operation -> Bool
  | .acknowledge .. => true
  | _ => false

/-- The state whose acknowledgment a step accepted. -/
def Step.accepted? : Step -> Option EventState
  | ⟨.acknowledge state _, .acked .acknowledged⟩ => some state
  | _ => none

/-- The state whose acknowledgment a step announced. -/
def Step.announced? : Step -> Option EventState
  | ⟨.tick .., .event (some (.acknowledged state))⟩ => some state
  | _ => none

/-- The states whose acknowledgments a history accepted, oldest first. -/
def accepted (steps : List Step) : List EventState := steps.filterMap Step.accepted?

/-- The states whose acknowledgments a history announced, oldest first. -/
def announced (steps : List Step) : List EventState := steps.filterMap Step.announced?

/-- The ticks and the accepted acknowledgments of a history. -/
def turns (steps : List Step) : List Step :=
  steps.filter fun step => step.operation.isTick || step.accepted?.isSome

/-- Between any two accepted acknowledgments there is a tick. -/
def Separated (steps : List Step) : Prop :=
  (turns steps).IsChain fun earlier later =>
    ¬ (earlier.accepted?.isSome = true ∧ later.accepted?.isSome = true)

instance (steps : List Step) : Decidable (Separated steps) :=
  inferInstanceAs (Decidable (List.IsChain _ _))

/-! ## What one step adds -/

/-- A step accepts at most one acknowledgment. -/
theorem accepted_concat (steps : List Step) (step : Step) :
    accepted (steps ++ [step]) = accepted steps ++ step.accepted?.toList :=
  filterMap_concat Step.accepted? steps step

/-- A step announces at most one acknowledgment. -/
theorem announced_concat (steps : List Step) (step : Step) :
    announced (steps ++ [step]) = announced steps ++ step.announced?.toList :=
  filterMap_concat Step.announced? steps step

/-- An acknowledgment that is not granted is not accepted. -/
theorem accepted?_of_refused (state : EventState) (timestamp : EventTimeStamp)
    {answer : Answer} (refused : answer ≠ .acked .acknowledged) :
    Step.accepted? ⟨.acknowledge state timestamp, answer⟩ = none := by
  unfold Step.accepted?
  split
  · next same =>
      cases same
      exact absurd rfl refused
  · rfl

/-- A tick announces what was left to announce, and leaves nothing. -/
theorem announced?_tick (monitor : Monitor) (conditions : Conditions)
    (ackRequired : TransitionSet) (now : Timestamp) :
    Step.announced? ⟨.tick conditions ackRequired now,
        .event (monitor.tick conditions ackRequired now).1⟩ = monitor.pendingAck ∧
      (monitor.tick conditions ackRequired now).2.pendingAck = none := by
  have done := monitor.ticked conditions ackRequired now
  generalize monitor.tick conditions ackRequired now = result at done ⊢
  cases done with
  | announced pending => exact ⟨pending.symm, rfl⟩
  | failed idle => exact ⟨idle.symm, idle⟩
  | recovered idle => exact ⟨idle.symm, idle⟩
  | elapsed idle => exact ⟨idle.symm, idle⟩
  | counted idle => exact ⟨idle.symm, idle⟩
  | reloaded idle => exact ⟨idle.symm, idle⟩
  | rested idle => exact ⟨idle.symm, idle⟩

/-- A step that is neither a tick nor an accepted acknowledgment plays no part. -/
theorem separated_concat_other {step : Step} (steps : List Step)
    (noTick : step.operation.isTick = false) (notAccepted : step.accepted? = none) :
    Separated (steps ++ [step]) ↔ Separated steps := by
  simp [Separated, turns, noTick, notAccepted]

/-- A tick separates the acknowledgments around it. -/
theorem separated_concat_tick (steps : List Step) (conditions : Conditions)
    (ackRequired : TransitionSet) (now : Timestamp) (answer : Answer) :
    Separated (steps ++ [⟨.tick conditions ackRequired now, answer⟩]) ↔ Separated steps := by
  simp [Separated, turns, Operation.isTick, Step.accepted?, List.isChain_append]

/-- An accepted acknowledgment is separated from those before it if the last of the
ticks and accepted acknowledgments before it is no acknowledgment. -/
theorem separated_concat_accepted (steps : List Step) (state : EventState)
    (timestamp : EventTimeStamp) :
    Separated (steps ++ [⟨.acknowledge state timestamp, .acked .acknowledged⟩]) ↔
      Separated steps ∧ (turns steps).getLast?.bind Step.accepted? = none := by
  simp only [Separated, turns, List.filter_append, List.isChain_append]
  simp [Operation.isTick, Step.accepted?, Option.bind_eq_none_iff]

/-! ## The accounts of a history -/

/-- The accounts of a history and the monitor after it: what waits to be announced is
what was accepted last, unless a tick came after it, and announcements are missing
exactly where acknowledgments were accepted without a tick between them. -/
structure Announcing (steps : List Step) (monitor : Monitor) : Prop where
  pending : monitor.pendingAck = (turns steps).getLast?.bind Step.accepted?
  complete : Separated steps -> announced steps ++ monitor.pendingAck.toList = accepted steps
  lossy : ¬ Separated steps ->
    (announced steps).length + monitor.pendingAck.toList.length < (accepted steps).length

/-- The accounts of a new monitor are empty. -/
theorem Announcing.create (reporting : Reporting) : Announcing [] (create reporting) where
  pending := rfl
  complete _ := rfl
  lossy apart := absurd List.IsChain.nil apart

/-- A tick settles what was left to announce. -/
theorem Announcing.tick {steps : List Step} {monitor : Monitor}
    (accounts : Announcing steps monitor) (conditions : Conditions)
    (ackRequired : TransitionSet) (now : Timestamp) :
    Announcing
      (steps ++ [⟨.tick conditions ackRequired now,
        .event (monitor.tick conditions ackRequired now).1⟩])
      (monitor.tick conditions ackRequired now).2 := by
  obtain ⟨announces, settled⟩ := announced?_tick monitor conditions ackRequired now
  constructor
  · rw [settled]
    simp [turns, Operation.isTick, Step.accepted?]
  · intro separated
    rw [separated_concat_tick] at separated
    rw [announced_concat, accepted_concat, announces, settled, accounts.complete separated]
    simp [Step.accepted?]
  · intro joined
    rw [separated_concat_tick] at joined
    have missing := accounts.lossy joined
    rw [announced_concat, accepted_concat, announces, settled, List.length_append]
    simpa [Step.accepted?] using missing

/-- An accepted acknowledgment takes the place of the announcement that was left. -/
theorem Announcing.accept {steps : List Step} {monitor : Monitor}
    (accounts : Announcing steps monitor) (acks : AckTracker) (state : EventState)
    (timestamp : EventTimeStamp) :
    Announcing (steps ++ [⟨.acknowledge state timestamp, .acked .acknowledged⟩])
      { monitor with acks, pendingAck := some state } := by
  have accepts : accepted (steps ++ [⟨.acknowledge state timestamp, .acked .acknowledged⟩]) =
      accepted steps ++ [state] := accepted_concat steps _
  have announces : announced (steps ++ [⟨.acknowledge state timestamp, .acked .acknowledged⟩]) =
      announced steps := (announced_concat steps _).trans (List.append_nil _)
  constructor
  · simp [turns, Operation.isTick, Step.accepted?]
  · intro separated
    rw [separated_concat_accepted, ← accounts.pending] at separated
    have before := accounts.complete separated.1
    rw [separated.2, Option.toList_none, List.append_nil] at before
    rw [announces, accepts, before]
    rfl
  · intro joined
    rw [separated_concat_accepted, ← accounts.pending, not_and'] at joined
    rw [announces, accepts, List.length_append]
    change (announced steps).length + 1 < (accepted steps).length + 1
    by_cases separated : Separated steps
    · -- The announcement that was left is the one that gets lost.
      have before := congrArg List.length (accounts.complete separated)
      have waiting : monitor.pendingAck ≠ none := fun settled => joined settled separated
      obtain ⟨lost, waits⟩ := Option.ne_none_iff_exists'.mp waiting
      rw [waits, List.length_append] at before
      simp only [Option.toList_some, List.length_singleton] at before
      omega
    · have missing := accounts.lossy separated
      omega

/-- Any other step changes nothing in the accounts. -/
theorem Announcing.other {steps : List Step} {monitor after : Monitor} {step : Step}
    (accounts : Announcing steps monitor) (noTick : step.operation.isTick = false)
    (notAccepted : step.accepted? = none) (notAnnounced : step.announced? = none)
    (same : after.pendingAck = monitor.pendingAck) :
    Announcing (steps ++ [step]) after := by
  have separates := separated_concat_other steps noTick notAccepted
  constructor
  · rw [same, accounts.pending]
    simp [turns, noTick, notAccepted]
  · intro separated
    rw [announced_concat, accepted_concat, notAccepted, notAnnounced, same]
    simpa using accounts.complete (separates.mp separated)
  · intro joined
    rw [announced_concat, accepted_concat, notAccepted, notAnnounced, same]
    simpa using accounts.lossy (joined ∘ separates.mpr)

/-- The accounts hold after every run. -/
theorem announcing_after (reporting : Reporting) (operations : List Operation) :
    Announcing ((create reporting).history operations)
      ((create reporting).after operations) := by
  refine invariant_of_step (fun _ => True) Announcing (.create reporting) ?_ operations
    fun _ _ => trivial
  intro steps monitor operation _ accounts
  cases operation with
  | tick conditions ackRequired now => exact accounts.tick conditions ackRequired now
  | acknowledge state timestamp =>
      rcases perform_acknowledge_cases monitor state timestamp with
        ⟨acks, accepts⟩ | ⟨answer, refused, refuses⟩
      · rw [accepts]
        exact accounts.accept acks state timestamp
      · rw [refuses]
        exact accounts.other rfl (accepted?_of_refused state timestamp refused) rfl rfl
  | setTimeDelay ticks => exact accounts.other rfl rfl rfl rfl
  | setEventEnable kinds => exact accounts.other rfl rfl rfl rfl
  | setNotifyType type => exact accounts.other rfl rfl rfl rfl

/-! ## When nothing is lost -/

/-- Without an acknowledgment nothing comes up that would have to be announced. -/
theorem pendingAck_perform {monitor : Monitor} {operation : Operation}
    (noAck : operation.isAcknowledgment = false) (settled : monitor.pendingAck = none) :
    (monitor.perform operation).2.pendingAck = none := by
  cases operation with
  | tick conditions ackRequired now => exact (announced?_tick monitor conditions ackRequired now).2
  | acknowledge => cases noAck
  | setTimeDelay | setEventEnable | setNotifyType => exact settled

/-- Nothing is left to announce after a tick that no acknowledgment follows. -/
theorem pendingAck_after {monitor : Monitor} {closing : List Operation}
    (noAck : ∀ operation ∈ closing, operation.isAcknowledgment = false)
    (settled : monitor.pendingAck = none ∨ ∃ operation ∈ closing, operation.isTick = true) :
    (monitor.after closing).pendingAck = none := by
  induction closing generalizing monitor with
  | nil =>
      rcases settled with settled | ⟨operation, member, -⟩
      · exact settled
      · cases member
  | cons operation rest inductionHypothesis =>
      have first := noAck operation (List.mem_cons_self ..)
      have later := fun operation member =>
        noAck operation (List.mem_cons_of_mem _ member)
      change ((monitor.perform operation).2.after rest).pendingAck = none
      apply inductionHypothesis later
      rcases settled with settled | ⟨tick, member, isTick⟩
      · exact .inl (pendingAck_perform first settled)
      · rcases List.mem_cons.mp member with here | there
        · subst here
          cases tick with
          | tick conditions ackRequired now =>
              exact .inl (announced?_tick monitor conditions ackRequired now).2
          | acknowledge | setTimeDelay | setEventEnable | setNotifyType => cases isTick
        · exact .inr ⟨tick, there, isTick⟩

/-- Once a tick has followed the last acknowledgment of a run, the announcements of the
run are its accepted acknowledgments exactly if there was a tick between any two of
those. -/
theorem announced_perm_accepted_iff (reporting : Reporting)
    (operations closing : List Operation)
    (noAck : ∀ operation ∈ closing, operation.isAcknowledgment = false)
    (ticked : ∃ operation ∈ closing, operation.isTick = true) :
    (announced ((create reporting).history (operations ++ closing))).Perm
        (accepted ((create reporting).history (operations ++ closing))) ↔
      Separated ((create reporting).history (operations ++ closing)) := by
  have accounts := announcing_after reporting (operations ++ closing)
  have settled : ((create reporting).after (operations ++ closing)).pendingAck = none := by
    rw [after_append]
    exact pendingAck_after noAck (.inr ticked)
  constructor
  · intro permuted
    by_contra joined
    have missing := accounts.lossy joined
    have same := permuted.length_eq
    omega
  · intro separated
    have complete := accounts.complete separated
    rw [settled, Option.toList_none, List.append_nil] at complete
    rw [complete]

/-! ### Two acknowledgments before one tick -/

/-- A tick with both signals, on which every transition has to be acknowledged. -/
def alarmTick (offnormal fault : Bool) : Operation := .tick ⟨offnormal, fault⟩ .all .noon

/-- A point goes off-normal and then has a fault, and an operator acknowledges both. -/
def hastyRun : List Operation :=
  [alarmTick true false, alarmTick true true,
    .acknowledge .offnormal (.dateTime .noon), .acknowledge .fault (.dateTime .noon)]

/-- Three ticks on which the fault goes on. -/
def hastyClosing : List Operation := .replicate 3 (alarmTick true true)

/-- The two acknowledgments have no tick between them, so not all that was accepted is
announced. -/
theorem hastyRun_not_perm :
    (∀ operation ∈ hastyClosing, operation.isAcknowledgment = false) ∧
    (∃ operation ∈ hastyClosing, operation.isTick = true) ∧
    ¬ Separated ((create .standard).history (hastyRun ++ hastyClosing)) ∧
    ¬ (announced ((create .standard).history (hastyRun ++ hastyClosing))).Perm
      (accepted ((create .standard).history (hastyRun ++ hastyClosing))) := by
  have noAck : ∀ operation ∈ hastyClosing, operation.isAcknowledgment = false := by decide
  have ticked : ∃ operation ∈ hastyClosing, operation.isTick = true := by decide
  have joined : ¬ Separated ((create .standard).history (hastyRun ++ hastyClosing)) := by decide
  exact ⟨noAck, ticked, joined, fun permuted =>
    joined ((announced_perm_accepted_iff .standard hastyRun hastyClosing noAck ticked).mp permuted)⟩

/-- Three ticks behind the last acknowledgment are not enough for every accepted one to
be announced. -/
theorem not_announced_perm_accepted :
    ¬ ∀ (reporting : Reporting) (operations closing : List Operation),
      (∀ operation ∈ closing, operation.isAcknowledgment = false) ->
      3 ≤ closing.countP Operation.isTick ->
      (announced ((create reporting).history (operations ++ closing))).Perm
        (accepted ((create reporting).history (operations ++ closing))) := by
  intro claim
  have permuted := claim .standard hastyRun hastyClosing (by decide) (by decide)
  have announces : announced ((create .standard).history (hastyRun ++ hastyClosing)) =
      [.fault] := by decide
  have accepts : accepted ((create .standard).history (hastyRun ++ hastyClosing)) =
      [.offnormal, .fault] := by decide
  rw [announces, accepts] at permuted
  exact absurd permuted.length_eq (by decide)

end Annunciator.Monitor
