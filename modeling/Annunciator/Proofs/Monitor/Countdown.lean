import Annunciator.Proofs.Monitor.History

/-!
# The countdown and the history behind it

A monitor keeps one count for both timed transitions, and many things start it
again. What the count stands for is the `streak` of evaluated ticks at the end of
the history that called for leaving the state: `Counts` says so, every step keeps
it, and from it follows exactly which ticks make which transition.
-/

namespace Annunciator.Monitor

/-- Whether an operation leaves the settings of a monitor alone. -/
def Operation.keepsSettings : Operation -> Bool
  | .tick .. | .acknowledge .. => true
  | .setTimeDelay _ | .setEventEnable _ | .setNotifyType _ => false

/-! ## Ticks at the end of a history -/

/-- A property holds of so many members at the end of a list if no fewer of them have
it without a break. -/
theorem exists_suffix_iff {α : Type} (holds : α -> Bool) (items : List α) (count : Nat) :
    (∃ window, window <:+ items ∧ window.length = count ∧
      ∀ item ∈ window, holds item = true) ↔
    count ≤ (items.rtakeWhile holds).length := by
  constructor
  · rintro ⟨window, ⟨earlier, rfl⟩, rfl, held⟩
    induction window using List.reverseRecOn with
    | nil => exact Nat.zero_le _
    | append_singleton rest last inductionHypothesis =>
        have restHeld : ∀ item ∈ rest, holds item = true := fun item member =>
          held item (List.mem_append_left _ member)
        have lastHeld : holds last = true := held last (by simp)
        rw [← List.append_assoc, List.rtakeWhile_concat_pos holds _ _ lastHeld]
        simpa using inductionHypothesis restHeld
  · intro enough
    refine ⟨(items.rtakeWhile holds).drop ((items.rtakeWhile holds).length - count), ?_, ?_, ?_⟩
    · exact (List.drop_suffix _ _).trans (List.rtakeWhile_suffix holds items)
    · rw [List.length_drop]
      omega
    · intro item member
      exact List.mem_rtakeWhile_imp (List.mem_of_mem_drop member)

/-- Whether a tick made no transition and called for leaving a state. -/
def countsTowards (reporting : Reporting) (state : EventState) (tick : Tick) : Bool :=
  tick.event.isNone && leaveHolds reporting state tick.conditions

/-- The ticks at the end of `past` that counted, without a break, towards the timed
transition out of a state. -/
def streak (reporting : Reporting) (state : EventState) (past : List Tick) : List Tick :=
  past.rtakeWhile (countsTowards reporting state)

/-- A tick without a transition that calls for leaving makes the streak longer. -/
theorem streak_concat_of_leaving {reporting : Reporting} {state : EventState}
    {conditions : Conditions} (past : List Tick)
    (leaving : leaveHolds reporting state conditions = true) :
    (streak reporting state (past ++ [⟨conditions, none⟩])).length =
      (streak reporting state past).length + 1 := by
  have counting : countsTowards reporting state ⟨conditions, none⟩ = true := by
    simp [countsTowards, leaving]
  simp [streak, List.rtakeWhile_concat_pos _ past _ counting]

/-- Any other tick ends the streak. -/
theorem streak_concat_eq_nil {reporting : Reporting} {state : EventState} {tick : Tick}
    (past : List Tick) (breaks : countsTowards reporting state tick = false) :
    streak reporting state (past ++ [tick]) = [] :=
  List.rtakeWhile_concat_neg _ past tick (by simp [breaks])

/-- Towards a timed transition that does not exist nothing counts. -/
theorem streak_eq_nil_of_noExit {reporting : Reporting} {state : EventState}
    (noExit : exitKind? state = none) (past : List Tick) :
    streak reporting state past = [] := by
  rw [List.eq_nil_iff_forall_not_mem]
  intro tick member
  have counting : countsTowards reporting state tick = true := List.mem_rtakeWhile_imp member
  simp [countsTowards, leaveHolds_eq_false noExit] at counting

/-! ## The count -/

/-- The count of a monitor is what the streak of its evaluated ticks leaves of the
time delay, and the streak has not used up the delay. -/
structure Counts (monitor : Monitor) (past : List Tick) : Prop where
  remaining : monitor.remaining.toNat =
    monitor.reporting.timeDelay.toNat - (streak monitor.reporting monitor.state past).length
  short : (streak monitor.reporting monitor.state past).length <
    max 1 monitor.reporting.timeDelay.toNat

/-- Where the streak is empty, the whole delay is left. -/
theorem Counts.of_nil {monitor : Monitor} {past : List Tick}
    (empty : streak monitor.reporting monitor.state past = [])
    (full : monitor.remaining = monitor.reporting.timeDelay) : Counts monitor past where
  remaining := by rw [empty, full, List.length_nil, Nat.sub_zero]
  short := by rw [empty, List.length_nil]; omega

/-- A new monitor has its whole delay left. -/
theorem Counts.create (reporting : Reporting) : Counts (create reporting) [] :=
  .of_nil rfl rfl

/-- A transition starts the count again. -/
theorem Counts.fire (monitor : Monitor) (kind : Transition) (ackRequired : TransitionSet)
    (now : Timestamp) (conditions : Conditions) (past : List Tick) :
    Counts (monitor.fire kind ackRequired now).2
      (past ++ [⟨conditions, (monitor.fire kind ackRequired now).1⟩]) :=
  .of_nil (streak_concat_eq_nil past rfl) rfl

/-- A tick that calls for leaving uses up one tick of the count. -/
theorem Counts.countDown {monitor : Monitor} {past : List Tick} (counts : Counts monitor past)
    {conditions : Conditions}
    (leaving : leaveHolds monitor.reporting monitor.state conditions = true)
    (more : 1 < monitor.remaining.toNat) :
    Counts { monitor with remaining := countDown monitor.remaining }
      (past ++ [⟨conditions, none⟩]) := by
  have grown := streak_concat_of_leaving past leaving
  have left := counts.remaining
  have counted := toNat_countDown monitor.remaining
  constructor
  · change (Annunciator.countDown monitor.remaining).toNat = monitor.reporting.timeDelay.toNat -
      (streak monitor.reporting monitor.state (past ++ [⟨conditions, none⟩])).length
    omega
  · change (streak monitor.reporting monitor.state (past ++ [⟨conditions, none⟩])).length <
      max 1 monitor.reporting.timeDelay.toNat
    omega

/-- Every tick keeps the count in step with the evaluated ticks. -/
theorem Counts.tick {monitor : Monitor} {past : List Tick} (counts : Counts monitor past)
    (conditions : Conditions) (ackRequired : TransitionSet) (now : Timestamp) :
    Counts (monitor.tick conditions ackRequired now).2
      (past ++ [⟨conditions, (monitor.tick conditions ackRequired now).1⟩].filter
        Tick.isEvaluated) := by
  have done := monitor.ticked conditions ackRequired now
  generalize monitor.tick conditions ackRequired now = result at done ⊢
  cases done with
  | announced pending => simpa [Tick.isEvaluated] using ⟨counts.remaining, counts.short⟩
  | failed idle raised => exact Counts.fire monitor .toFault ackRequired now conditions past
  | recovered idle cleared => exact Counts.fire monitor .toNormal ackRequired now conditions past
  | elapsed idle noFault exit leaving last =>
      exact Counts.fire monitor _ ackRequired now conditions past
  | counted idle noFault leaving more => exact counts.countDown leaving more
  | reloaded idle noFault exit staying =>
      have breaks : countsTowards monitor.reporting monitor.state ⟨conditions, none⟩ = false := by
        simp [countsTowards, staying]
      exact .of_nil (streak_concat_eq_nil past breaks) rfl
  | rested idle noFault notCleared noExit =>
      have left := counts.remaining
      rw [streak_eq_nil_of_noExit noExit, List.length_nil, Nat.sub_zero] at left
      exact .of_nil (streak_eq_nil_of_noExit noExit _) (UInt32.toNat_inj.mp left)

/-- After every run of ticks and acknowledgments the settings are the first ones, and
the count is in step with the history. -/
theorem counts_after (reporting : Reporting) (operations : List Operation)
    (settled : ∀ operation ∈ operations, operation.keepsSettings = true) :
    ((create reporting).after operations).reporting = reporting ∧
      Counts ((create reporting).after operations)
        (evaluatedTicks ((create reporting).history operations)) := by
  refine invariant_of_step (fun operation => operation.keepsSettings = true)
    (fun steps monitor => monitor.reporting = reporting ∧ Counts monitor (evaluatedTicks steps))
    ⟨rfl, Counts.create reporting⟩ ?_ operations settled
  rintro steps monitor operation keeps ⟨same, counts⟩
  cases operation with
  | tick conditions ackRequired now =>
      have next := counts.tick conditions ackRequired now
      rw [← evaluatedTicks_concat_tick steps conditions ackRequired now] at next
      exact ⟨(reporting_tick monitor conditions ackRequired now).trans same, next⟩
  | acknowledge state timestamp =>
      rw [evaluatedTicks, ticks_concat_acknowledge]
      rcases perform_acknowledge_cases monitor state timestamp with
        ⟨acks, accepted⟩ | ⟨answer, -, refused⟩
      · rw [accepted]
        exact ⟨same, counts.remaining, counts.short⟩
      · rw [refused]
        exact ⟨same, counts⟩
  | setTimeDelay ticks => cases keeps
  | setEventEnable kinds => cases keeps
  | setNotifyType type => cases keeps

/-! ## Which ticks make a transition -/

/-- The transitions that an evaluated tick makes, by the state that they end in. -/
inductive Fires (reporting : Reporting) (state : EventState) (past : List Tick)
    (conditions : Conditions) : EventState -> Prop where
  | fault (raised : FaultRaised reporting state conditions) :
      Fires reporting state past conditions .fault
  | recovery (cleared : FaultCleared reporting state conditions) :
      Fires reporting state past conditions .normal
  /-- Leaving was called for on this tick and on the evaluated ticks directly before
  it, as many as the delay asks for, and none of those made a transition. -/
  | timed (noFault : ¬ FaultRaised reporting state conditions) {kind : Transition}
      (exit : exitKind? state = some kind)
      (leaving : leaveHolds reporting state conditions = true)
      (held : ∃ window, window <:+ past ∧
        window.length = max 1 reporting.timeDelay.toNat - 1 ∧
        ∀ tick ∈ window, tick.event = none ∧
          leaveHolds reporting state tick.conditions = true) :
      Fires reporting state past conditions kind.target

/-- The window of a timed transition is as long as the streak allows. -/
theorem exists_window_iff (reporting : Reporting) (state : EventState) (past : List Tick)
    (count : Nat) :
    (∃ window, window <:+ past ∧ window.length = count ∧
      ∀ tick ∈ window, tick.event = none ∧ leaveHolds reporting state tick.conditions = true) ↔
    count ≤ (streak reporting state past).length := by
  rw [streak, ← exists_suffix_iff]
  simp only [countsTowards, Bool.and_eq_true, Option.isNone_iff_eq_none]

/-- A monitor whose count is in step makes exactly the transitions of `Fires`. -/
theorem Counts.tick_eq_transition_iff {monitor : Monitor} {past : List Tick}
    (counts : Counts monitor past) (conditions : Conditions) (ackRequired : TransitionSet)
    (now : Timestamp) (origin target : EventState)
    (evaluated : ∀ state,
      (monitor.tick conditions ackRequired now).1 ≠ some (.acknowledged state)) :
    (monitor.tick conditions ackRequired now).1 = some (.transition origin target) ↔
      origin = monitor.state ∧
        Fires monitor.reporting monitor.state past conditions target := by
  have left := counts.remaining
  have short := counts.short
  have done := monitor.ticked conditions ackRequired now
  generalize monitor.tick conditions ackRequired now = result at done evaluated ⊢
  constructor
  · intro fired
    cases done with
    | announced pending => cases fired
    | failed idle raised =>
        cases fired
        exact ⟨rfl, .fault raised⟩
    | recovered idle cleared =>
        cases fired
        exact ⟨rfl, .recovery cleared⟩
    | elapsed idle noFault exit leaving last =>
        cases fired
        refine ⟨rfl, .timed noFault exit leaving ?_⟩
        rw [exists_window_iff]
        omega
    | counted | reloaded | rested => cases fired
  · rintro ⟨rfl, fires⟩
    cases done with
    | announced pending => exact absurd rfl (evaluated _)
    | failed idle raised =>
        cases fires with
        | fault => rfl
        | recovery cleared => exact absurd cleared.2.1 raised.2.1
        | timed noFault => exact absurd raised noFault
    | recovered idle cleared =>
        cases fires with
        | fault raised => exact absurd cleared.2.1 raised.2.1
        | recovery => rfl
        | timed noFault exit =>
            rw [exitKind?_eq_none_of_faultCleared cleared] at exit
            cases exit
    | elapsed idle noFault exit leaving last =>
        cases fires with
        | fault raised => exact absurd raised noFault
        | recovery cleared =>
            rw [exitKind?_eq_none_of_faultCleared cleared] at exit
            cases exit
        | timed _ same => cases exit.symm.trans same; rfl
    | counted idle noFault leaving more =>
        cases fires with
        | fault raised => exact absurd raised noFault
        | recovery cleared =>
            have stays : leaveHolds monitor.reporting monitor.state conditions = false :=
              leaveHolds_eq_false (exitKind?_eq_none_of_faultCleared cleared)
            rw [leaving] at stays
            cases stays
        | timed _ exit _ held =>
            -- A window of the whole delay leaves nothing to count.
            rw [exists_window_iff] at held
            omega
    | reloaded idle noFault exit staying =>
        cases fires with
        | fault raised => exact absurd raised noFault
        | recovery cleared =>
            rw [exitKind?_eq_none_of_faultCleared cleared] at exit
            cases exit
        | timed _ _ leaving => rw [staying] at leaving; cases leaving
    | rested idle noFault notCleared noExit =>
        cases fires with
        | fault raised => exact absurd raised noFault
        | recovery cleared => exact absurd cleared notCleared
        | timed _ exit => rw [noExit] at exit; cases exit

/-- An evaluated tick makes a transition if a fault comes up or is over, at once and
whatever the count, or if leaving the state has been called for on as many evaluated
ticks in a row as the delay asks for, this tick included and all behind the last
transition. It makes no other transition. The `operations` are what the monitor did
before the tick, so this is about every tick of every run. -/
theorem tick_transition_iff_fires (reporting : Reporting) (operations : List Operation)
    (settled : ∀ operation ∈ operations, operation.keepsSettings = true)
    (conditions : Conditions) (ackRequired : TransitionSet) (now : Timestamp)
    (origin target : EventState)
    (evaluated : ∀ state,
      (((create reporting).after operations).tick conditions ackRequired now).1 ≠
        some (.acknowledged state)) :
    (((create reporting).after operations).tick conditions ackRequired now).1 =
        some (.transition origin target) ↔
      origin = ((create reporting).after operations).state ∧
        Fires reporting ((create reporting).after operations).state
          (evaluatedTicks ((create reporting).history operations)) conditions target := by
  obtain ⟨same, counts⟩ := counts_after reporting operations settled
  rw [counts.tick_eq_transition_iff conditions ackRequired now origin target evaluated, same]

/-! ### A signal that flickers on an announcing tick -/

/-- A tick with a given off-normal signal, on which every transition has to be
acknowledged. -/
def flickerTick (offnormal : Bool) : Operation := .tick ⟨offnormal, false⟩ .all .noon

/-- A monitor goes off-normal after two ticks. The signal goes away, comes back on the
tick that announces the acknowledgment, and is away again on the next tick. -/
def flickerRun : List Operation :=
  [flickerTick true, flickerTick true, flickerTick false,
    .acknowledge .offnormal (.dateTime .noon), flickerTick true]

/-- Transitions after two ticks, and all of them enabled. -/
def flickerReporting : Reporting := { Reporting.standard with timeDelay := 2 }

/-- The tick behind the run leads back to normal: the one that announced did not interrupt the
count. -/
theorem flickerRun_fires :
    (∀ operation ∈ flickerRun, operation.keepsSettings = true) ∧
    (∀ state, (((create flickerReporting).after flickerRun).tick ⟨false, false⟩ .all .noon).1 ≠
      some (.acknowledged state)) ∧
    (((create flickerReporting).after flickerRun).tick ⟨false, false⟩ .all .noon).1 =
      some (.transition .offnormal .normal) ∧
    Fires flickerReporting .offnormal
      (evaluatedTicks ((create flickerReporting).history flickerRun)) ⟨false, false⟩ .normal := by
  have settled : ∀ operation ∈ flickerRun, operation.keepsSettings = true := by decide
  have fired : (((create flickerReporting).after flickerRun).tick ⟨false, false⟩ .all .noon).1 =
      some (.transition .offnormal .normal) := by decide
  have evaluated : ∀ state,
      (((create flickerReporting).after flickerRun).tick ⟨false, false⟩ .all .noon).1 ≠
        some (.acknowledged state) := by
    intro state announced
    rw [fired] at announced
    cases announced
  exact ⟨settled, evaluated, fired,
    ((tick_transition_iff_fires flickerReporting flickerRun settled ⟨false, false⟩ .all .noon
      .offnormal .normal evaluated).mp fired).2⟩

/-! ## What a timed transition says about the signal -/

/-- The last `count` of some ticks all called for leaving a state. -/
def HeldThroughout (state : EventState) (count : Nat) (ticks : List Tick) : Prop :=
  ∃ window, window <:+ ticks ∧ window.length = count ∧
    ∀ tick ∈ window, leaveSignal state tick.conditions = true

/-- A transition between normal and off-normal. -/
def IsTimed (origin target : EventState) : Prop :=
  (origin = .normal ∧ target = .offnormal) ∨ (origin = .offnormal ∧ target = .normal)

/-- A timed transition is made by `Fires.timed` and by nothing else. -/
theorem Fires.held_of_isTimed {reporting : Reporting} {state target : EventState}
    {past : List Tick} {conditions : Conditions}
    (fires : Fires reporting state past conditions target) (timed : IsTimed state target) :
    leaveHolds reporting state conditions = true ∧
      ∃ window, window <:+ past ∧ window.length = max 1 reporting.timeDelay.toNat - 1 ∧
        ∀ tick ∈ window, tick.event = none ∧
          leaveHolds reporting state tick.conditions = true := by
  cases fires with
  | fault raised => rcases timed with ⟨-, wrong⟩ | ⟨-, wrong⟩ <;> cases wrong
  | recovery cleared =>
      rcases timed with ⟨normal, -⟩ | ⟨offnormal, -⟩
      · cases normal.symm.trans cleared.2.1
      · cases offnormal.symm.trans cleared.2.1
  | timed noFault exit leaving held => exact ⟨leaving, held⟩

/-- A monitor whose count is in step makes a timed transition only after leaving has
been called for as long as the delay asks for. -/
theorem Counts.heldThroughout {monitor : Monitor} {past : List Tick}
    (counts : Counts monitor past) {conditions : Conditions} {ackRequired : TransitionSet}
    {now : Timestamp} {origin target : EventState}
    (fired : (monitor.tick conditions ackRequired now).1 = some (.transition origin target))
    (timed : IsTimed origin target) :
    HeldThroughout origin (max 1 monitor.reporting.timeDelay.toNat)
      (past ++ [⟨conditions, some (.transition origin target)⟩]) := by
  have evaluated : ∀ state,
      (monitor.tick conditions ackRequired now).1 ≠ some (.acknowledged state) := by
    intro state announced
    rw [fired] at announced
    cases announced
  obtain ⟨rfl, fires⟩ :=
    (counts.tick_eq_transition_iff conditions ackRequired now origin target evaluated).mp fired
  obtain ⟨leaving, window, ⟨earlier, split⟩, length, held⟩ := fires.held_of_isTimed timed
  have signal : ∀ conditions, leaveHolds monitor.reporting monitor.state conditions = true ->
      leaveSignal monitor.state conditions = true :=
    fun conditions holds => (Bool.and_eq_true_iff.mp holds).1
  refine ⟨window ++ [⟨conditions, some (.transition monitor.state target)⟩], ⟨earlier, ?_⟩,
    ?_, ?_⟩
  · rw [← List.append_assoc, split]
  · rw [List.length_append, length, List.length_singleton]
    omega
  · intro tick member
    rcases List.mem_append.mp member with before | last
    · exact signal _ (held tick before).2
    · cases List.mem_singleton.mp last
      exact signal _ leaving

/-- If a tick makes a timed transition, the last ticks of the run that announced no
acknowledgment, as many as the delay asks for, all called for leaving the state. -/
theorem heldThroughout_evaluatedTicks (reporting : Reporting) (operations : List Operation)
    (settled : ∀ operation ∈ operations, operation.keepsSettings = true)
    (conditions : Conditions) (ackRequired : TransitionSet) (now : Timestamp)
    (origin target : EventState)
    (fired : (((create reporting).after operations).tick conditions ackRequired now).1 =
      some (.transition origin target))
    (timed : IsTimed origin target) :
    HeldThroughout origin (max 1 reporting.timeDelay.toNat)
      (evaluatedTicks ((create reporting).history
        (operations ++ [.tick conditions ackRequired now]))) := by
  obtain ⟨same, counts⟩ := counts_after reporting operations settled
  have held := counts.heldThroughout fired timed
  rw [same] at held
  simp only [history_append, history_singleton, perform_tick, fired]
  rw [evaluatedTicks_concat_tick]
  exact held

/-- The signal was away on the two evaluated ticks up to the return to normal, though not on the
one between them. -/
theorem flickerRun_heldThroughout :
    (((create flickerReporting).after flickerRun).tick ⟨false, false⟩ .all .noon).1 =
      some (.transition .offnormal .normal) ∧
    HeldThroughout .offnormal 2
      (evaluatedTicks ((create flickerReporting).history
        (flickerRun ++ [flickerTick false]))) :=
  ⟨by decide, heldThroughout_evaluatedTicks flickerReporting flickerRun (by decide) ⟨false, false⟩
    .all .noon .offnormal .normal (by decide) (.inr ⟨rfl, rfl⟩)⟩

/-- The ticks that announce an acknowledgment cannot be counted in: their signals go
unseen, and leaving need not have been called for on them. -/
theorem not_heldThroughout_ticks :
    ¬ ∀ (reporting : Reporting) (operations : List Operation),
      (∀ operation ∈ operations, operation.keepsSettings = true) ->
      ∀ (conditions : Conditions) (ackRequired : TransitionSet) (now : Timestamp)
        (origin target : EventState),
      (((create reporting).after operations).tick conditions ackRequired now).1 =
        some (.transition origin target) ->
      IsTimed origin target ->
      HeldThroughout origin (max 1 reporting.timeDelay.toNat)
        (ticks ((create reporting).history
          (operations ++ [.tick conditions ackRequired now]))) := by
  intro claim
  obtain ⟨window, suffix, length, held⟩ := claim flickerReporting flickerRun (by decide)
    ⟨false, false⟩ .all .noon .offnormal .normal (by decide) (.inr ⟨rfl, rfl⟩)
  rw [List.suffix_iff_eq_drop, length] at suffix
  have announcing : (⟨⟨true, false⟩, some (.acknowledged .offnormal)⟩ : Tick) ∈ window := by
    rw [suffix]
    decide
  exact absurd (held _ announcing) (by decide)

end Annunciator.Monitor
