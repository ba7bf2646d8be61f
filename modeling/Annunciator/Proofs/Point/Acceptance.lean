import Annunciator.Proofs.Point.Parts

/-!
# Which descriptions are accepted

Setting up a point stops at the first flaw of its description. Here the flaws are listed all
at once: those of the name, of the alarm condition and of the default value, in this order. A
description is sound if it has none. Then a point comes out of it, and otherwise the first flaw
of the list is named.
-/

namespace Annunciator

/-! ## Checks and flaws -/

/-- A check refuses exactly if there are flaws, and names the first of them. -/
def NamesFirst {Outcome : Type} (check : Except ValidationError Outcome)
    (flaws : List ValidationError) : Prop :=
  ∀ error, check = .error error ↔ flaws.head? = some error

namespace NamesFirst

variable {Outcome Next : Type} {check : Except ValidationError Outcome}
  {earlier later flaws : List ValidationError}

theorem accepted (outcome : Outcome) : NamesFirst (.ok outcome) [] := by
  simp [NamesFirst]

theorem refused (error : ValidationError) (others : List ValidationError) :
    NamesFirst (.error error : Except ValidationError Outcome) (error :: others) := by
  simp [NamesFirst]

/-- A check accepts exactly if there are no flaws. -/
theorem exists_ok_iff (names : NamesFirst check flaws) :
    (∃ outcome, check = .ok outcome) ↔ flaws = [] := by
  rw [← List.head?_eq_none_iff, Option.eq_none_iff_forall_ne_some]
  cases check with
  | error error => simpa using ⟨error, (names error).mp rfl⟩
  | ok outcome =>
      refine ⟨fun _ error found => ?_, fun _ => ⟨outcome, rfl⟩⟩
      cases (names error).mpr found

/-- The flaws that a later check looks for come after those of an earlier one. -/
theorem bind (names : NamesFirst check earlier) {next : Outcome -> Except ValidationError Next}
    (nextNames : ∀ outcome, check = .ok outcome -> NamesFirst (next outcome) later) :
    NamesFirst (check >>= next) (earlier ++ later) := by
  cases check with
  | error cause =>
      have first : earlier.head? = some cause := (names cause).mp rfl
      intro error
      rw [List.head?_append, first, Option.some_or, Option.some.injEq]
      change (Except.error cause : Except ValidationError Next) = .error error ↔ _
      rw [Except.error.injEq]
  | ok outcome =>
      have none : earlier = [] := names.exists_ok_iff.mp ⟨outcome, rfl⟩
      rw [none, List.nil_append]
      exact nextNames outcome rfl

end NamesFirst

/-- The states that an alarm condition is about: first those of an alarm, then the faults. -/
def AlarmCondition.states : AlarmCondition -> List UInt32
  | .binary _ => []
  | .multiState alarmValues faultValues => alarmValues ++ faultValues

namespace PointDescription

/-! ## Flaws -/

section Flaws

variable (description : PointDescription)

/-- How many states a multi-state point has: the given number, else 2. -/
def stateCount : UInt32 := description.numberOfStates.getD 2

/-- A number is one of the states of a multi-state point. -/
def IsState (state : UInt32) : Prop :=
  1 ≤ state.toNat ∧ state.toNat ≤ description.stateCount.toNat

instance (state : UInt32) : Decidable (description.IsState state) :=
  inferInstanceAs (Decidable (_ ∧ _))

def nameFlaws : List ValidationError :=
  if description.name.getD "" = "" then [.emptyName] else []

/-- A condition of the wrong kind says nothing about states. Any other has one flaw for each
value that is no state, in the order in which they are given. -/
def alarmFlaws : List ValidationError :=
  match description.alarm with
  | none => []
  | some condition =>
      if condition.kind ≠ description.kind then [.valueKindMismatch]
      else (condition.states.filter fun state => ¬ description.IsState state).map fun state =>
        .stateOutOfRange state description.stateCount

/-- A default value of the wrong kind, states that there are none of, and a default state that
is none of them. -/
def defaultFlaws : List ValidationError :=
  (if description.defaultValue.kind ≠ description.kind then [.valueKindMismatch] else []) ++
  (if description.kind = .multiState ∧ description.stateCount = 0 then [.noStates] else []) ++
  match description.defaultValue with
  | .binary _ => []
  | .multiState state =>
      if description.kind = .multiState ∧ ¬ description.IsState state then
        [.stateOutOfRange state description.stateCount]
      else []

/-- All flaws of a description, in the order in which they are looked for. -/
def flaws : List ValidationError :=
  description.nameFlaws ++ (description.alarmFlaws ++ description.defaultFlaws)

/-- A description of a point that can be set up: it has a name, what it gives is of the kind of
its object, and every state that it speaks of is one of its states. -/
structure IsSound : Prop where
  named : ∃ name ∈ description.name, name ≠ ""
  alarm : ∀ condition ∈ description.alarm, condition.kind = description.kind ∧
    ∀ state ∈ condition.states, description.IsState state
  default : ∀ value ∈ description.relinquishDefault, value.kind = description.kind
  states : description.kind = .multiState -> 1 ≤ description.stateCount.toNat ∧
    ∀ state, description.defaultValue = .multiState state -> description.IsState state

end Flaws

variable {description : PointDescription}

/-- The states that are refused are those that are no states of the point. -/
theorem isOutsideStates_stateCount (state : UInt32) :
    isOutsideStates description.stateCount state = decide (¬ description.IsState state) := by
  rw [Bool.eq_iff_iff, decide_eq_true_iff, IsState, ← isOutsideStates_eq_false_iff,
    Bool.not_eq_false]

/-- A name without a flaw is given and not empty. -/
theorem nameFlaws_eq_nil_iff :
    description.nameFlaws = [] ↔ ∃ name ∈ description.name, name ≠ "" := by
  rw [nameFlaws]
  cases description.name <;> simp

/-- A condition without a flaw is of the kind of the point, and about its states only. -/
theorem alarmFlaws_eq_nil_iff :
    description.alarmFlaws = [] ↔
      ∀ condition ∈ description.alarm, condition.kind = description.kind ∧
        ∀ state ∈ condition.states, description.IsState state := by
  rw [alarmFlaws]
  cases description.alarm with
  | none => simp
  | some condition =>
      by_cases kind : condition.kind = description.kind <;> simp [kind]

/-- A default value that is not given is of the right kind. -/
theorem kind_defaultValue_iff :
    description.defaultValue.kind = description.kind ↔
      ∀ value ∈ description.relinquishDefault, value.kind = description.kind := by
  rw [defaultValue, kind]
  cases description.relinquishDefault with
  | some value => simp
  | none => cases description.id.objectType.isBinary <;> simp [PointValue.kind]

/-- A default without a flaw is of the kind of the point and, if this has states, one of
them. -/
theorem defaultFlaws_eq_nil_iff :
    description.defaultFlaws = [] ↔
      (∀ value ∈ description.relinquishDefault, value.kind = description.kind) ∧
      (description.kind = .multiState -> 1 ≤ description.stateCount.toNat ∧
        ∀ state, description.defaultValue = .multiState state -> description.IsState state) := by
  have counted : 1 ≤ description.stateCount.toNat ↔ description.stateCount ≠ 0 := by
    rw [Nat.one_le_iff_ne_zero, ne_eq, ne_eq, ← UInt32.toNat_inj]
    rfl
  rw [defaultFlaws, ← kind_defaultValue_iff, counted]
  by_cases kind : description.kind = .multiState
  · cases description.defaultValue <;> simp [kind]
  · cases description.defaultValue <;> simp [kind]

/-- The descriptions without flaws are the sound ones. -/
theorem flaws_eq_nil_iff : description.flaws = [] ↔ description.IsSound := by
  rw [flaws, List.append_eq_nil_iff, List.append_eq_nil_iff, nameFlaws_eq_nil_iff,
    alarmFlaws_eq_nil_iff, defaultFlaws_eq_nil_iff]
  constructor
  · rintro ⟨named, alarm, default, states⟩
    exact ⟨named, alarm, default, states⟩
  · rintro ⟨named, alarm, default, states⟩
    exact ⟨named, alarm, default, states⟩

/-! ## What is named -/

/-- The states of binary points are not counted, those of multi-state points are. -/
theorem kind_and_states (description : PointDescription) :
    description.kind = .binary ∧ description.states = none ∨
      description.kind = .multiState ∧ description.states = some description.stateCount := by
  rw [kind, states, stateCount]
  cases description.id.objectType.isBinary with
  | true => exact .inl ⟨rfl, rfl⟩
  | false => exact .inr ⟨rfl, rfl⟩

/-- A condition that is not given is of the right kind, and about no state. -/
theorem alarmCondition_of_none (none : description.alarm = none) :
    description.alarmCondition.kind = description.kind ∧
      description.alarmCondition.states = [] := by
  rw [alarmCondition, none, kind]
  cases description.id.objectType.isBinary <;> exact ⟨rfl, rfl⟩

/-- The state that is named is the first one that is none of the point. -/
theorem strayState?_stateCount (condition : AlarmCondition) :
    strayState? condition description.stateCount =
      (condition.states.filter fun state => ¬ description.IsState state).head? := by
  rw [List.head?_filter]
  cases condition with
  | binary => rfl
  | multiState alarmValues faultValues =>
      rw [strayState?, AlarmCondition.states, funext isOutsideStates_stateCount]

/-- The alarm condition that is checked, given or not, has the flaws of the given one. -/
theorem alarmFlaws_eq :
    description.alarmFlaws =
      if description.alarmCondition.kind ≠ description.kind then [.valueKindMismatch]
      else (description.alarmCondition.states.filter fun state =>
        ¬ description.IsState state).map fun state =>
          .stateOutOfRange state description.stateCount := by
  rw [alarmFlaws]
  cases given : description.alarm with
  | none =>
      obtain ⟨sameKind, noStates⟩ := alarmCondition_of_none given
      simp [sameKind, noStates]
  | some condition => rw [alarmCondition, given, Option.getD_some]

/-- The check of the alarm condition names the first of its flaws. -/
theorem checkAlarm_names : NamesFirst description.checkAlarm description.alarmFlaws := by
  rw [checkAlarm, alarmFlaws_eq]
  split
  · exact .refused _ _
  · next sameKind =>
      have same : description.alarmCondition.kind = description.kind := not_not.mp sameKind
      rcases description.kind_and_states with ⟨binary, uncounted⟩ | ⟨multiState, counted⟩
      · have noStates : description.alarmCondition.states = [] := by
          rw [binary] at same
          cases condition : description.alarmCondition with
          | binary => rfl
          | multiState => rw [condition] at same; cases same
        rw [uncounted, noStates]
        exact .accepted ()
      · rw [counted]
        dsimp only
        rw [strayState?_stateCount]
        cases description.alarmCondition.states.filter fun state =>
            ¬ description.IsState state with
        | nil => exact .accepted ()
        | cons stray others => exact .refused _ _

/-- Setting up the ladder names the first flaw of the default value. -/
theorem create_names :
    NamesFirst (PriorityLadder.create description.defaultValue description.states)
      description.defaultFlaws := by
  rw [defaultFlaws]
  rcases description.kind_and_states with ⟨binary, uncounted⟩ | ⟨multiState, counted⟩
  · rw [binary, uncounted]
    cases description.defaultValue with
    | binary value => exact .accepted _
    | multiState state => exact .refused _ _
  · rw [multiState, counted]
    cases description.defaultValue with
    | binary value => exact .refused _ _
    | multiState state =>
        by_cases empty : description.stateCount = 0
        · simp only [PriorityLadder.create, empty]
          exact .refused _ _
        · simp only [PriorityLadder.create, empty, isOutsideStates_stateCount]
          by_cases inside : description.IsState state
          · simpa [inside, PointValue.kind] using NamesFirst.accepted _
          · simpa [inside, PointValue.kind] using NamesFirst.refused _ []

/-- The name is checked first, then the alarm condition, then the default value. -/
theorem build_names : NamesFirst description.build description.flaws := by
  rw [build, flaws, nameFlaws]
  dsimp only
  split
  · next missing =>
      rw [if_pos (String.isEmpty_iff.mp missing)]
      exact .refused _ _
  · next named =>
      have given : description.name.getD "" ≠ "" := mt String.isEmpty_iff.mpr named
      rw [if_neg given, List.nil_append, ← description.defaultFlaws.append_nil]
      refine checkAlarm_names.bind fun _ _ => create_names.bind fun ladder _ => ?_
      exact .accepted _

/-! ## What is accepted -/

/-- A point of a description that nothing has happened to yet. -/
structure IsFresh (description : PointDescription) (point : Point) : Prop where
  state : point.monitor.state = .normal
  acked : ∀ kind, (point.monitor.acks.get kind).isAcked = true
  inService : point.ladder.outOfService = false
  unchanged : point.ladder.changed = false
  value : point.presentValue = description.defaultValue
  remaining : point.monitor.remaining = description.reporting.timeDelay

/-- Nothing has happened yet to a point that was just set up. -/
theorem isFresh_of_build {point : Point} (built : description.build = .ok point) :
    description.IsFresh point := by
  obtain ⟨settled, unchanged, inService⟩ := of_build built
  obtain ⟨ladder, created, rfl⟩ := exists_ladder_of_build built
  have cached : ladder.cachedValue = description.defaultValue := by
    rw [(PriorityLadder.of_create created).1]
  refine ⟨rfl, fun kind => ?_, inService, unchanged, settled.cached.symm.trans cached, rfl⟩
  cases kind <;> rfl

/-- Binary points have no states to be counted. -/
theorem build_of_binary (binary : description.kind = .binary) (count : Option UInt32) :
    ({ description with numberOfStates := count } : PointDescription).build =
      description.build := by
  have isBinary : description.id.objectType.isBinary = true := by
    rw [kind] at binary
    split at binary
    · assumption
    · cases binary
  simp only [build, checkAlarm, states, isBinary, if_true]
  rfl

/-- A point comes out of a description exactly if it is sound, and of all the flaws of any other
the first one is named. Nothing has happened to the point yet. How many states are given makes
no difference to binary points. -/
theorem built_exactly_when_sound (description : PointDescription) :
    ((∃ point, description.build = .ok point) ↔ description.IsSound) ∧
    (∀ error, description.build = .error error ↔ description.flaws.head? = some error) ∧
    (∀ point, description.build = .ok point -> description.IsFresh point) ∧
    (description.kind = .binary -> ∀ count,
      ({ description with numberOfStates := count } : PointDescription).build =
        description.build) :=
  ⟨build_names.exists_ok_iff.trans flaws_eq_nil_iff, build_names, fun _ => isFresh_of_build,
    build_of_binary⟩

/-- A damper that has no states, but a fault in one of them and a default of another kind. -/
def damper : PointDescription :=
  { PointDescription.of ⟨.multiStateOutput, 1⟩ with
    name := some "damper"
    relinquishDefault := some (.binary .active)
    numberOfStates := some 0
    alarm := some (.multiState [] [7]) }

/-- Of the three flaws of the damper the stray fault value is named. -/
theorem damper_names_stray :
    damper.flaws = [.stateOutOfRange 7 0, .valueKindMismatch, .noStates] ∧
      damper.build = .error (.stateOutOfRange 7 0) := by
  obtain ⟨-, names, -, -⟩ := built_exactly_when_sound damper
  exact ⟨by decide, (names _).mpr (by decide)⟩

end PointDescription

end Annunciator
