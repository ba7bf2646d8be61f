import Annunciator.Proofs.Monitor.History

/-!
# The books of acknowledgments

What a monitor keeps about the last transition of each kind follows from its history
alone: `Recorded` reads it off there, and every step keeps it. `Judged` lists everything
that a request for an acknowledgment can lead to. Nothing is assumed about the clock, so
a later transition can have an earlier moment.
-/

namespace Annunciator.Monitor

/-- Whether a step made a transition of a kind. -/
def Step.Makes (step : Step) (kind : Transition) : Prop :=
  ∃ origin, step.answer = .event (some (.transition origin kind.target))

/-- Whether a step asked to acknowledge transitions of a kind up to some moment, and that
is no earlier than the given one. -/
def Step.Covers (step : Step) (kind : Transition) (moment : Timestamp) : Prop :=
  ∃ upTo, step.operation = .acknowledge kind.target (.dateTime upTo) ∧ moment ≤ upTo

/-- What a history says about the last transition of a kind. -/
inductive Recorded (kind : Transition) (steps : List Step) : AckedTransition -> Prop where
  /-- There was none, and there is nothing to acknowledge. -/
  | never (quiet : ∀ step ∈ steps, ¬ step.Makes kind) : Recorded kind steps ⟨true, none⟩
  /-- The last one was made by this tick. It is acknowledged if that was not required, or
  has been asked for since then with a time stamp that covers it. -/
  | last {earlier later : List Step} {conditions : Conditions} {ackRequired : TransitionSet}
      {moment : Timestamp} {origin : EventState} {isAcked : Bool}
      (split : steps = earlier ++ ⟨.tick conditions ackRequired moment,
        .event (some (.transition origin kind.target))⟩ :: later)
      (final : ∀ step ∈ later, ¬ step.Makes kind)
      (acked : isAcked = true ↔
        ackRequired.contains kind = false ∨ ∃ step ∈ later, step.Covers kind moment) :
      Recorded kind steps ⟨isAcked, some moment⟩

/-! ## Requests for an acknowledgment -/

/-- Whether what is kept about a transition still waits for an acknowledgment and a time
stamp covers it. -/
def Grants (entry : AckedTransition) (timestamp : EventTimeStamp) : Prop :=
  entry.isAcked = false ∧ ∃ moment upTo, entry.timestamp = some moment ∧
    timestamp = .dateTime upTo ∧ moment ≤ upTo

/-- Everything that a request for an acknowledgment can lead to, for a monitor that knows
the moment of every transition that waits. -/
inductive Judged (monitor : Monitor) (state : EventState) (timestamp : EventTimeStamp) :
    Answer × Monitor -> Prop where
  | granted {kind : Transition} (named : state = kind.target)
      (grants : Grants (monitor.acks.get kind) timestamp) :
      Judged monitor state timestamp
        (.acked .acknowledged,
          { monitor with
            acks := ⟨monitor.acks.entries.set kind { monitor.acks.get kind with isAcked := true }⟩
            pendingAck := some state })
  | already {kind : Transition} (named : state = kind.target)
      (acked : (monitor.acks.get kind).isAcked = true) (current : state = monitor.state) :
      Judged monitor state timestamp (.acked .alreadyAcknowledged, monitor)
  | refused (error : AckError)
      (notGranted : ∀ kind, state = kind.target -> ¬ Grants (monitor.acks.get kind) timestamp)
      (notAlready : ∀ kind, state = kind.target -> (monitor.acks.get kind).isAcked = true ->
        state ≠ monitor.state) :
      Judged monitor state timestamp (.notAcked error, monitor)

section Judged

variable {monitor : Monitor} {kind : Transition}

/-- What is acknowledged already can only be acknowledged again in its own state. -/
theorem judged_of_acked (acked : (monitor.acks.get kind).isAcked = true)
    (timestamp : EventTimeStamp) :
    Judged monitor kind.target timestamp
      (monitor.perform (.acknowledge kind.target timestamp)) := by
  by_cases current : kind.target = monitor.state
  · have repeats : monitor.perform (.acknowledge kind.target timestamp) =
        (.acked .alreadyAcknowledged, monitor) := by
      rw [perform, acknowledge, AckTracker.acknowledge, Transition.entering?_target]
      simp only [acked, if_true, if_pos current]
    rw [repeats]
    exact .already rfl acked current
  · have refuses : monitor.perform (.acknowledge kind.target timestamp) =
        (.notAcked (.rejected .invalidEventState), monitor) := by
      rw [perform, acknowledge, AckTracker.acknowledge, Transition.entering?_target]
      simp only [acked, if_true, if_neg current]
    rw [refuses]
    refine .refused _ ?_ fun _ _ _ => current
    rintro other same ⟨waits, -⟩
    rw [← Transition.target_injective same, acked] at waits
    cases waits

/-- What waits is acknowledged by a time stamp that covers it. -/
theorem judged_of_waiting (waits : (monitor.acks.get kind).isAcked = false)
    {moment : Timestamp} (happened : (monitor.acks.get kind).timestamp = some moment)
    (timestamp : EventTimeStamp) :
    Judged monitor kind.target timestamp
      (monitor.perform (.acknowledge kind.target timestamp)) := by
  by_cases grants : Grants (monitor.acks.get kind) timestamp
  · obtain ⟨-, since, upTo, same, rfl, covered⟩ := grants
    have notBefore : ¬ upTo < since := Int.not_lt.mpr covered
    have accepts : monitor.perform (.acknowledge kind.target (.dateTime upTo)) =
        (.acked .acknowledged,
          { monitor with
            acks := ⟨monitor.acks.entries.set kind { monitor.acks.get kind with isAcked := true }⟩
            pendingAck := some kind.target }) := by
      rw [perform, acknowledge, AckTracker.acknowledge, Transition.entering?_target]
      simp [waits, same, EventTimeStamp.moment?, notBefore]
    rw [accepts]
    exact .granted rfl ⟨waits, since, upTo, same, rfl, covered⟩
  · have refuses : monitor.perform (.acknowledge kind.target timestamp) =
        (.notAcked (.rejected .invalidTimeStamp), monitor) := by
      rw [perform, acknowledge, AckTracker.acknowledge, Transition.entering?_target]
      cases timestamp with
      | timeOfDay | sequenceNumber => simp [waits, EventTimeStamp.moment?]
      | dateTime upTo =>
          have before : upTo < moment := by
            refine Int.not_le.mp fun covered => grants ?_
            exact ⟨waits, moment, upTo, happened, rfl, covered⟩
          simp [waits, happened, EventTimeStamp.moment?, before]
    rw [refuses]
    refine .refused _ ?_ ?_
    · intro other same
      rw [← Transition.target_injective same]
      exact grants
    · intro other same acked
      rw [← Transition.target_injective same, waits] at acked
      cases acked

/-- A request does nothing beyond what `Judged` lists. -/
theorem judged (known : ∀ kind, (monitor.acks.get kind).isAcked = false ->
      ∃ moment, (monitor.acks.get kind).timestamp = some moment)
    (state : EventState) (timestamp : EventTimeStamp) :
    Judged monitor state timestamp (monitor.perform (.acknowledge state timestamp)) := by
  cases entered : Transition.entering? state with
  | none =>
      have refuses : monitor.perform (.acknowledge state timestamp) =
          (.notAcked (.unsupportedState state), monitor) := by
        rw [perform, acknowledge, AckTracker.acknowledge, entered]
      have unnamed : ∀ kind : Transition, state ≠ kind.target := by
        rintro kind rfl
        rw [Transition.entering?_target] at entered
        cases entered
      rw [refuses]
      exact .refused _ (fun kind named => absurd named (unnamed kind))
        fun kind named => absurd named (unnamed kind)
  | some kind =>
      cases Transition.entering?_eq_some_iff.mp entered
      cases acked : (monitor.acks.get kind).isAcked with
      | true => exact judged_of_acked acked timestamp
      | false =>
          obtain ⟨moment, happened⟩ := known kind acked
          exact judged_of_waiting acked happened timestamp

end Judged

/-! ## What a step does to the books -/

namespace Recorded

variable {kind : Transition} {steps : List Step} {entry : AckedTransition}

/-- What waits for an acknowledgment has happened at some moment. -/
theorem known (recorded : Recorded kind steps entry) (waits : entry.isAcked = false) :
    ∃ moment, entry.timestamp = some moment := by
  cases recorded with
  | never quiet => cases waits
  | last => exact ⟨_, rfl⟩

/-- A transition of the kind takes the place of the one before it. -/
theorem made (conditions : Conditions) (ackRequired : TransitionSet) (moment : Timestamp)
    (origin : EventState) :
    Recorded kind
      (steps ++ [⟨.tick conditions ackRequired moment,
        .event (some (.transition origin kind.target))⟩])
      ⟨!ackRequired.contains kind, some moment⟩ :=
  .last rfl (fun _ member => nomatch member) (by simp)

/-- A step without such a transition can only acknowledge the last one. -/
theorem kept (recorded : Recorded kind steps entry) {step : Step} {isAcked : Bool}
    (quiet : ¬ step.Makes kind)
    (never : entry.timestamp = none -> isAcked = entry.isAcked)
    (asked : ∀ moment, entry.timestamp = some moment ->
      (isAcked = true ↔ entry.isAcked = true ∨ step.Covers kind moment)) :
    Recorded kind (steps ++ [step]) { entry with isAcked } := by
  have extend : ∀ later : List Step, (∀ other ∈ later, ¬ other.Makes kind) ->
      ∀ other ∈ later ++ [step], ¬ other.Makes kind := by
    intro later final other member
    rcases List.mem_append.mp member with before | here
    · exact final other before
    · cases List.mem_singleton.mp here
      exact quiet
  cases recorded with
  | never none =>
      rw [never rfl]
      exact .never (extend steps none)
  | @last earlier later conditions ackRequired moment origin wasAcked split final acked =>
      have longer : steps ++ [step] = earlier ++ ⟨.tick conditions ackRequired moment,
          .event (some (.transition origin kind.target))⟩ :: (later ++ [step]) := by
        rw [split, List.append_assoc]
        rfl
      refine .last longer (extend later final) ?_
      rw [asked moment rfl, acked, or_assoc]
      simp only [List.mem_append, List.mem_singleton, or_and_right, exists_or, exists_eq_left]

/-- A step that has nothing to do with the kind changes nothing. -/
theorem unrelated (recorded : Recorded kind steps entry) {step : Step}
    (quiet : ¬ step.Makes kind) (unasked : ∀ moment, ¬ step.Covers kind moment) :
    Recorded kind (steps ++ [step]) entry :=
  recorded.kept quiet (fun _ => rfl) fun moment _ => by simp [unasked moment]

end Recorded

/-- The books of a monitor are those that its history calls for. -/
def Booked (steps : List Step) (monitor : Monitor) : Prop :=
  ∀ kind, Recorded kind steps (monitor.acks.get kind)

/-- A new monitor has no transition in its books. -/
theorem Booked.create (reporting : Reporting) : Booked [] (create reporting) := by
  intro kind
  have fresh : (Monitor.create reporting).acks.get kind = ⟨true, none⟩ :=
    PerTransition.get_replicate _ kind
  rw [fresh]
  exact .never fun _ member => nomatch member

section Booked

variable {steps : List Step} {monitor : Monitor} (booked : Booked steps monitor)
include booked

/-- A step that makes no transition and asks for no acknowledgment leaves the books alone. -/
theorem Booked.unrelated {step : Step} {after : Monitor} (same : after.acks = monitor.acks)
    (quiet : ∀ kind, ¬ step.Makes kind)
    (unasked : ∀ state timestamp, step.operation ≠ .acknowledge state timestamp) :
    Booked (steps ++ [step]) after := by
  intro kind
  rw [same]
  refine (booked kind).unrelated (quiet kind) ?_
  rintro moment ⟨upTo, asks, -⟩
  exact unasked _ _ asks

/-- A transition is entered under its own kind. -/
theorem Booked.fire (kind : Transition) (conditions : Conditions) (ackRequired : TransitionSet)
    (now : Timestamp) :
    Booked
      (steps ++ [⟨.tick conditions ackRequired now,
        .event (monitor.fire kind ackRequired now).1⟩])
      (monitor.fire kind ackRequired now).2 := by
  intro other
  rw [fire_acks]
  split
  · next same =>
      subst same
      exact .made conditions ackRequired now monitor.state
  · next differ =>
      refine (booked other).unrelated ?_ ?_
      · rintro ⟨origin, made⟩
        rw [fire_event] at made
        injection made with event
        injection event with transition
        injection transition with _ targets
        exact differ (Transition.target_injective targets)
      · rintro moment ⟨upTo, asks, -⟩
        cases asks

/-- A tick enters the transition that it makes, if it makes one. -/
theorem Booked.tick (conditions : Conditions) (ackRequired : TransitionSet) (now : Timestamp) :
    Booked
      (steps ++ [⟨.tick conditions ackRequired now,
        .event (monitor.tick conditions ackRequired now).1⟩])
      (monitor.tick conditions ackRequired now).2 := by
  have done := monitor.ticked conditions ackRequired now
  generalize monitor.tick conditions ackRequired now = result at done ⊢
  have noRequest : ∀ state timestamp, Operation.tick conditions ackRequired now ≠
      .acknowledge state timestamp := by
    intro state timestamp same
    cases same
  cases done with
  | failed | recovered | elapsed => exact booked.fire _ conditions ackRequired now
  | announced | counted | reloaded | rested =>
      refine booked.unrelated rfl ?_ noRequest
      rintro kind ⟨origin, made⟩
      cases made

/-- A request is entered if it is granted, and else there was nothing to enter. -/
theorem Booked.acknowledge (state : EventState) (timestamp : EventTimeStamp) :
    Booked
      (steps ++ [⟨.acknowledge state timestamp,
        (monitor.perform (.acknowledge state timestamp)).1⟩])
      (monitor.perform (.acknowledge state timestamp)).2 := by
  have done := judged (fun kind waits => (booked kind).known waits) state timestamp
  generalize monitor.perform (.acknowledge state timestamp) = result at done ⊢
  intro kind
  -- An entry stays as it is when the request is about another kind or the entry is
  -- acknowledged, and when the time stamp does not cover it.
  have stays : ∀ answer, (∀ event, answer ≠ .event event) ->
      (state = kind.target -> (monitor.acks.get kind).isAcked = true ∨
        ¬ Grants (monitor.acks.get kind) timestamp) ->
      Recorded kind (steps ++ [⟨.acknowledge state timestamp, answer⟩])
        (monitor.acks.get kind) := by
    intro answer noEvent settled
    refine (booked kind).kept ?_ (fun _ => rfl) ?_
    · rintro ⟨origin, made⟩
      exact noEvent _ made
    · intro moment happened
      refine (or_iff_left_of_imp ?_).symm
      rintro ⟨upTo, asks, covered⟩
      cases asks
      rcases settled rfl with acked | notGranted
      · exact acked
      · by_contra waits
        exact notGranted ⟨Bool.eq_false_iff.mpr waits, moment, upTo, happened, rfl, covered⟩
  cases done with
  | @granted target named grants =>
      by_cases same : target = kind
      · subst same
        have entered : AckTracker.get ⟨monitor.acks.entries.set target
            { monitor.acks.get target with isAcked := true }⟩ target =
              { monitor.acks.get target with isAcked := true } :=
          PerTransition.get_set_self _ target _
        obtain ⟨waits, moment, upTo, happened, rfl, covered⟩ := grants
        rw [entered]
        refine (booked target).kept ?_ ?_ ?_
        · rintro ⟨origin, made⟩
          cases made
        · intro never
          rw [never] at happened
          cases happened
        · intro since known
          cases happened.symm.trans known
          exact iff_of_true rfl (.inr ⟨upTo, by rw [named], covered⟩)
      · have entered : AckTracker.get ⟨monitor.acks.entries.set target
            { monitor.acks.get target with isAcked := true }⟩ kind = monitor.acks.get kind :=
          PerTransition.get_set_ne _ same _
        rw [entered]
        refine stays _ (fun _ => by simp) fun other => ?_
        exact absurd (Transition.target_injective (named.symm.trans other)) same
  | @already target named acked current =>
      refine stays _ (fun _ => by simp) fun other => .inl ?_
      rw [← Transition.target_injective (named.symm.trans other)]
      exact acked
  | refused error notGranted notAlready =>
      exact stays _ (fun _ => by simp) fun other => .inr (notGranted kind other)

end Booked

/-- The books agree with the history after every run. -/
theorem booked_after (reporting : Reporting) (operations : List Operation) :
    Booked ((create reporting).history operations) ((create reporting).after operations) := by
  refine invariant_of_step (fun _ => True) Booked (.create reporting) ?_ operations
    fun _ _ => trivial
  intro steps monitor operation _ booked
  cases operation with
  | tick conditions ackRequired now => exact booked.tick conditions ackRequired now
  | acknowledge state timestamp => exact booked.acknowledge state timestamp
  | setTimeDelay | setEventEnable | setNotifyType =>
      refine booked.unrelated rfl ?_ fun _ _ same => nomatch same
      rintro kind ⟨origin, made⟩
      cases made

/-! ## What the books decide -/

/-- The books of a monitor follow from its history, and they decide what a request for an
acknowledgment leads to: it is granted for a state that a transition ends in if that
transition waits and the time stamp covers it, it is answered as a repetition in the
current state, and it is refused and changes nothing in every other case. -/
theorem acknowledgments_of_history (reporting : Reporting) (operations : List Operation) :
    (∀ kind, Recorded kind ((create reporting).history operations)
      (((create reporting).after operations).acks.get kind)) ∧
    ∀ state timestamp,
      ((((create reporting).after operations).perform (.acknowledge state timestamp)).1 =
          .acked .acknowledged ↔
        ∃ kind : Transition, state = kind.target ∧
          Grants (((create reporting).after operations).acks.get kind) timestamp) ∧
      ((((create reporting).after operations).perform (.acknowledge state timestamp)).1 =
          .acked .alreadyAcknowledged ↔
        ∃ kind : Transition, state = kind.target ∧
          (((create reporting).after operations).acks.get kind).isAcked = true ∧
          state = ((create reporting).after operations).state) ∧
      ((∀ outcome, (((create reporting).after operations).perform
          (.acknowledge state timestamp)).1 ≠ .acked outcome) ->
        ∃ error, ((create reporting).after operations).perform (.acknowledge state timestamp) =
          (.notAcked error, (create reporting).after operations)) := by
  have booked := booked_after reporting operations
  refine ⟨booked, fun state timestamp => ?_⟩
  have done := judged (fun kind waits => (booked kind).known waits) state timestamp
  generalize ((create reporting).after operations).perform (.acknowledge state timestamp) = result
    at done ⊢
  have oneKind : ∀ {kind other : Transition}, state = kind.target -> state = other.target ->
      kind = other := fun named same => Transition.target_injective (named.symm.trans same)
  cases done with
  | @granted kind named grants =>
      refine ⟨iff_of_true rfl ⟨kind, named, grants⟩, iff_of_false (by simp) ?_, fun refused => ?_⟩
      · rintro ⟨other, same, acked, -⟩
        rw [← oneKind named same, grants.1] at acked
        cases acked
      · exact absurd rfl (refused .acknowledged)
  | @already kind named acked current =>
      refine ⟨iff_of_false (by simp) ?_, iff_of_true rfl ⟨kind, named, acked, current⟩,
        fun refused => ?_⟩
      · rintro ⟨other, same, waits, -⟩
        rw [← oneKind named same, acked] at waits
        cases waits
      · exact absurd rfl (refused .alreadyAcknowledged)
  | refused error notGranted notAlready =>
      refine ⟨iff_of_false (by simp) ?_, iff_of_false (by simp) ?_, fun _ => ⟨error, rfl⟩⟩
      · rintro ⟨kind, named, grants⟩
        exact notGranted kind named grants
      · rintro ⟨kind, named, acked, current⟩
        exact notAlready kind named acked current

end Annunciator.Monitor
