import Annunciator.PriorityLadder
import Mathlib.Data.List.Basic

/-!
# Commands to a ladder

What the slots of a ladder say about its value, and everything that one operation can
do to a ladder. `Performed` lists it, with what has to be the case for it, so that no
proof after it opens an operation again.
-/

namespace Annunciator

/-! ## What a point takes -/

/-- A value is of a kind and, where the states of the point are counted, one of them. -/
def PointValue.Fits (value : PointValue) (kind : ValueKind) (numberOfStates : Option UInt32) :
    Prop :=
  value.kind = kind ∧ ∀ state, value = .multiState state -> ∀ max ∈ numberOfStates,
    1 ≤ state.toNat ∧ state.toNat ≤ max.toNat

/-- What a written value leaves in its slot. -/
def WriteValue.stored? : WriteValue -> Option PointValue
  | .null => none
  | .value written => some written

/-- A priority that can be commanded. -/
def IsCommandable (priority : UInt8) : Prop :=
  1 ≤ priority.toNat ∧ priority.toNat ≤ 16 ∧ priority ≠ 6

/-- States are counted from 1 up to their number. -/
theorem isOutsideStates_eq_false_iff {max state : UInt32} :
    isOutsideStates max state = false ↔ 1 ≤ state.toNat ∧ state.toNat ≤ max.toNat := by
  have zero : state = 0 ↔ state.toNat = 0 := UInt32.toNat_inj.symm
  have above : max < state ↔ max.toNat < state.toNat := UInt32.lt_iff_toNat_lt
  rw [isOutsideStates, Bool.or_eq_false_iff, decide_eq_false_iff_not, decide_eq_false_iff_not,
    zero, above]
  omega

/-- Slots are counted from 0, and priorities from 1. -/
theorem slotOf?_eq_some_iff {priority : UInt8} {slot : Fin priorityLevels} :
    slotOf? priority = some slot ↔ slot.val + 1 = priority.toNat := by
  have bounded := slot.isLt
  rw [slotOf?]
  split
  · next inRange =>
      rw [Option.some.injEq, Fin.ext_iff]
      dsimp only
      omega
  · next outside =>
      have apart : slot.val + 1 ≠ priority.toNat := by omega
      simp [apart]

/-- The priorities that can be commanded are those of a slot, without the reserved one. -/
theorem commandableSlot_eq_ok_iff {priority : UInt8} {slot : Fin priorityLevels} :
    commandableSlot priority = .ok slot ↔ IsCommandable priority ∧ slotOf? priority = some slot := by
  rw [commandableSlot]
  cases place : slotOf? priority with
  | none => simp
  | some present =>
      have bounded : present.val < 16 := present.isLt
      have here := slotOf?_eq_some_iff.mp place
      by_cases reserved : priority = reservedPriority
      · have excluded : ¬ IsCommandable priority := fun commandable => commandable.2.2 reserved
        simp [reserved, reserved ▸ excluded]
      · have commandable : IsCommandable priority := ⟨by omega, by omega, reserved⟩
        simp [reserved, commandable]

/-- A priority that can be commanded has a slot. -/
theorem exists_slot {priority : UInt8} (commandable : IsCommandable priority) :
    ∃ slot, commandableSlot priority = .ok slot := by
  have low := commandable.1
  have high := commandable.2.1
  refine ⟨⟨priority.toNat - 1, ?_⟩, ?_⟩
  · change priority.toNat - 1 < 16
    omega
  · refine commandableSlot_eq_ok_iff.mpr ⟨commandable, slotOf?_eq_some_iff.mpr ?_⟩
    dsimp only
    omega

namespace PriorityLadder

/-! ## The slots -/

section Slots

variable (ladder : PriorityLadder)

/-- The slots in order of priority, and the slot of a priority among them. -/
theorem slot?_eq_some_iff {priority : UInt8} {value : PointValue} :
    ladder.slot? priority = some value ↔
      ∃ index, index + 1 = priority.toNat ∧ ladder.slots.toList[index]? = some (some value) := by
  rw [slot?, Option.bind_eq_some_iff]
  constructor
  · rintro ⟨slot, place, held⟩
    refine ⟨slot.val, slotOf?_eq_some_iff.mp place, ?_⟩
    simpa using held
  · rintro ⟨index, place, held⟩
    obtain ⟨bounded, held⟩ := List.getElem?_eq_some_iff.mp held
    have inside : index < priorityLevels := by simpa using bounded
    exact ⟨⟨index, inside⟩, slotOf?_eq_some_iff.mpr place, by simpa using held⟩

/-- Storing something changes the slot of its priority, and no other. -/
theorem slot?_set {slot : Fin priorityLevels} {priority : UInt8}
    (place : slotOf? priority = some slot) (stored : Option PointValue) (other : UInt8) :
    slot? { ladder with slots := ladder.slots.set slot.val stored slot.isLt } other =
      if priority = other then stored else ladder.slot? other := by
  have here := slotOf?_eq_some_iff.mp place
  simp only [slot?]
  split
  · next same =>
      subst same
      simp [place]
  · next differ =>
      cases elsewhere : slotOf? other with
      | none => rfl
      | some otherSlot =>
          have there := slotOf?_eq_some_iff.mp elsewhere
          have apart : slot.val ≠ otherSlot.val := by
            intro same
            exact differ (UInt8.toNat_inj.mp (by omega))
          simp [Vector.getElem_set, apart]

end Slots

/-! ## The value -/

/-- Either the first slot in use gives the value, or none is in use and the default does. -/
theorem resolve_cases (ladder : PriorityLadder) :
    (∃ priority value, ladder.activePriority? = some priority ∧
      ladder.slot? priority = some value ∧
      (∀ higher, higher < priority -> ladder.slot? higher = none) ∧
      ladder.resolve = value) ∨
    (ladder.activePriority? = none ∧ (∀ priority, ladder.slot? priority = none) ∧
      ladder.resolve = ladder.relinquishDefault) := by
  have length : ladder.slots.toList.length = 16 := by simp
  cases found : ladder.slots.toList.findIdx? Option.isSome with
  | none =>
      have empty : ∀ held ∈ ladder.slots.toList, held = none := by
        simpa [List.findIdx?_eq_none_iff] using found
      right
      refine ⟨by rw [activePriority?, found]; rfl, ?_, ?_⟩
      · intro priority
        rw [Option.eq_none_iff_forall_ne_some]
        intro value occupied
        obtain ⟨index, -, held⟩ := ladder.slot?_eq_some_iff.mp occupied
        cases empty _ (List.mem_of_getElem? held)
      · have nothing : ladder.slots.toList.findSome? id = none :=
          List.findSome?_eq_none_iff.mpr empty
        rw [resolve, nothing, Option.getD_none]
  | some index =>
      -- All slots in front of this one are free, so no higher priority is in use, and the search
      -- for a value does not stop earlier.
      obtain ⟨bounded, occupied, free⟩ := List.findIdx?_eq_some_iff_getElem.mp found
      obtain ⟨value, held⟩ := Option.isSome_iff_exists.mp occupied
      have place : index + 1 = (UInt8.ofNat (index + 1)).toNat := by
        rw [UInt8.toNat_ofNat']
        omega
      left
      refine ⟨UInt8.ofNat (index + 1), value, by rw [activePriority?, found]; rfl, ?_, ?_, ?_⟩
      · exact ladder.slot?_eq_some_iff.mpr
          ⟨index, place, List.getElem?_eq_some_iff.mpr ⟨bounded, held⟩⟩
      · intro higher above
        rw [Option.eq_none_iff_forall_ne_some]
        intro other used
        obtain ⟨earlier, there, filled⟩ := ladder.slot?_eq_some_iff.mp used
        obtain ⟨inside, filled⟩ := List.getElem?_eq_some_iff.mp filled
        have before : earlier < index := by
          have below := UInt8.lt_iff_toNat_lt.mp above
          omega
        exact free earlier before (by rw [filled]; rfl)
      · have first : ladder.slots.toList.findSome? id = some value := by
          rw [List.findSome?_eq_some_iff]
          refine ⟨ladder.slots.toList.take index, some value, ladder.slots.toList.drop (index + 1),
            ?_, rfl, ?_⟩
          · rw [← held, List.getElem_cons_drop, List.take_append_drop]
          · intro earlier member
            obtain ⟨position, inside, rfl⟩ := List.mem_take_iff_getElem.mp member
            simpa using free position (by omega)
        rw [resolve, first, Option.getD_some]

/-! ## Single operations -/

/-- The number of states is given for multi-state points and for no others. -/
def IsMatched (kind : ValueKind) (numberOfStates : Option UInt32) : Prop :=
  numberOfStates = none ↔ kind = .binary

/-- A new ladder is free at every priority, and its number of states matches its kind. -/
theorem of_create {default : PointValue} {numberOfStates : Option UInt32}
    {ladder : PriorityLadder} (built : create default numberOfStates = .ok ladder) :
    ladder = ⟨.replicate _ none, default, numberOfStates, false, default, false⟩ ∧
      IsMatched default.kind numberOfStates := by
  unfold create at built
  dsimp only at built
  split at built
  · cases built
    exact ⟨rfl, by simp [IsMatched, PointValue.kind]⟩
  · split at built
    · cases built
    · split at built
      · cases built
      · cases built
        exact ⟨rfl, by simp [IsMatched, PointValue.kind]⟩
  · cases built

/-- A value is taken exactly if it fits the point. -/
theorem checkValue_eq_ok_iff {ladder : PriorityLadder}
    (matched : IsMatched ladder.kind ladder.numberOfStates) (value : PointValue) :
    ladder.checkValue value = .ok () ↔ value.Fits ladder.kind ladder.numberOfStates := by
  cases value with
  | binary value =>
      cases counted : ladder.numberOfStates with
      | none => simp [checkValue, counted, PointValue.Fits, matched.mp counted, PointValue.kind]
      | some max =>
          have other : ladder.kind ≠ .binary := fun binary => by
            rw [matched.mpr binary] at counted
            cases counted
          simp [checkValue, counted, PointValue.Fits, PointValue.kind, other.symm]
  | multiState state =>
      cases counted : ladder.numberOfStates with
      | none => simp [checkValue, counted, PointValue.Fits, matched.mp counted, PointValue.kind]
      | some max =>
          have multiState : ladder.kind = .multiState := by
            cases kind : ladder.kind with
            | multiState => rfl
            | binary => rw [matched.mpr kind] at counted; cases counted
          have inside : isOutsideStates max state = false ↔ _ := isOutsideStates_eq_false_iff
          simp only [checkValue, counted, PointValue.Fits, PointValue.kind, multiState, true_and,
            PointValue.multiState.injEq, Option.mem_some_iff, forall_eq', ← inside]
          cases isOutsideStates max state <;> simp

/-- A command brings the cached value up to date, and a change of the value is noticed. -/
theorem settle_eq (ladder : PriorityLadder) (old : PointValue) :
    ladder.settle old =
      (⟨old, ladder.resolve, !ladder.outOfService⟩,
        { ladder with
          cachedValue := ladder.resolve
          changed := ladder.changed || ladder.resolve ≠ ladder.cachedValue }) := by
  rw [settle]
  split
  · next same => simp [same]
  · next differ => simp [differ]

/-- The answer to a command that changes the slots or the default, and the ladder after it. -/
def commanded (ladder changed : PriorityLadder) : Answer × PriorityLadder :=
  (.command (changed.settle ladder.resolve).1, (changed.settle ladder.resolve).2)

/-- The answer tells the value before and after, and whether the output is to follow. -/
@[simp] theorem commanded_answer (ladder changed : PriorityLadder) :
    (ladder.commanded changed).1 =
      .command ⟨ladder.resolve, changed.resolve, !changed.outOfService⟩ := by
  rw [commanded, settle_eq]

/-- The ladder takes up its new value, and notices if it had cached another one. -/
@[simp] theorem commanded_ladder (ladder changed : PriorityLadder) :
    (ladder.commanded changed).2 =
      { changed with
        cachedValue := changed.resolve
        changed := changed.changed || changed.resolve ≠ changed.cachedValue } := by
  rw [commanded, settle_eq]

/-- A command is accepted if the ladder changes its slots or its default by it. -/
theorem exists_commanded {ladder after : PriorityLadder} {operation : Operation}
    {command : Command} (accepted : ladder.perform operation = (.command command, after)) :
    ∃ changed, changed.outOfService = ladder.outOfService ∧
      ladder.commanded changed = (.command command, after) := by
  have written : ∀ priority value,
      ladder.answerCommand (ladder.write priority value) = (.command command, after) ->
        ∃ changed, changed.outOfService = ladder.outOfService ∧
          ladder.commanded changed = (.command command, after) := by
    intro priority value accepted
    cases granted : ladder.write priority value with
    | error error =>
        rw [granted] at accepted
        cases accepted
    | ok result =>
        rw [granted] at accepted
        obtain ⟨slot, -, stored⟩ := bind_eq_ok_iff.mp granted
        cases value with
        | null =>
            cases stored
            exact ⟨{ ladder with slots := ladder.slots.set slot none }, rfl, accepted⟩
        | value value =>
            obtain ⟨_, -, same⟩ := bind_eq_ok_iff.mp stored
            cases same
            exact ⟨{ ladder with slots := ladder.slots.set slot (some value) }, rfl, accepted⟩
  cases operation with
  | write priority value => exact written priority value accepted
  | relinquish priority => exact written priority .null accepted
  | setRelinquishDefault value =>
      rw [perform] at accepted
      cases granted : ladder.setRelinquishDefault value with
      | error error =>
          rw [granted] at accepted
          cases accepted
      | ok result =>
          rw [granted] at accepted
          obtain ⟨_, -, same⟩ := bind_eq_ok_iff.mp granted
          cases same
          exact ⟨{ ladder with relinquishDefault := value }, rfl, accepted⟩
  | setOutOfService | takeChanged => cases accepted

/-- An accepted command answers the value that results, and asks for the output to follow
if the point is in service. -/
theorem of_command {ladder after : PriorityLadder} {operation : Operation} {command : Command}
    (accepted : ladder.perform operation = (.command command, after)) :
    command.new = after.resolve ∧ command.actuate = !ladder.outOfService := by
  obtain ⟨changed, sameService, same⟩ := exists_commanded accepted
  rw [Prod.ext_iff, commanded_answer, commanded_ladder] at same
  obtain ⟨answer, rfl⟩ := same
  cases answer
  exact ⟨rfl, congrArg not sameService⟩

/-! ### What a command leaves alone -/

section Kept

variable {ladder after : PriorityLadder} {command : Command}

/-- What is written at a priority leaves the default and the service flag alone. -/
theorem write_keeps {priority : UInt8} {value : WriteValue}
    (accepted : ladder.write priority value = .ok (command, after)) :
    after.relinquishDefault = ladder.relinquishDefault ∧
      after.outOfService = ladder.outOfService := by
  obtain ⟨slot, -, stored⟩ := bind_eq_ok_iff.mp accepted
  cases value with
  | null =>
      rw [settle_eq] at stored
      cases stored
      exact ⟨rfl, rfl⟩
  | value written =>
      obtain ⟨_, -, same⟩ := bind_eq_ok_iff.mp stored
      rw [settle_eq] at same
      cases same
      exact ⟨rfl, rfl⟩

/-- A new default leaves the service flag alone. -/
theorem setRelinquishDefault_sets {value : PointValue}
    (accepted : ladder.setRelinquishDefault value = .ok (command, after)) :
    after.relinquishDefault = value ∧ after.outOfService = ladder.outOfService := by
  obtain ⟨_, -, same⟩ := bind_eq_ok_iff.mp accepted
  rw [settle_eq] at same
  cases same
  exact ⟨rfl, rfl⟩

/-- A switch of the service flag leaves the slots and the default alone. -/
theorem setOutOfService_sets (ladder : PriorityLadder) (value : Bool) :
    (ladder.setOutOfService value).outOfService = value ∧
      (ladder.setOutOfService value).slots = ladder.slots ∧
      (ladder.setOutOfService value).relinquishDefault = ladder.relinquishDefault := by
  rw [setOutOfService]
  split
  · next same => exact ⟨same, rfl, rfl⟩
  · exact ⟨rfl, rfl, rfl⟩

/-- The value that an operation gives to the service flag. -/
def Operation.service? : Operation -> Option Bool
  | .setOutOfService value => some value
  | .write .. | .relinquish _ | .setRelinquishDefault _ | .takeChanged => none

/-- Only a switch of the service flag changes it. -/
theorem outOfService_perform (ladder : PriorityLadder) (operation : Operation) :
    (ladder.perform operation).2.outOfService =
      operation.service?.getD ladder.outOfService := by
  have answered : ∀ attempt : Except ProtocolError (Command × PriorityLadder),
      (∀ command after, attempt = .ok (command, after) ->
        after.outOfService = ladder.outOfService) ->
      (ladder.answerCommand attempt).2.outOfService = ladder.outOfService := by
    intro attempt keeps
    cases attempt with
    | error error => rfl
    | ok result => exact keeps result.1 result.2 rfl
  cases operation with
  | write priority value => exact answered _ fun _ _ accepted => (write_keeps accepted).2
  | relinquish priority => exact answered _ fun _ _ accepted => (write_keeps accepted).2
  | setRelinquishDefault value =>
      exact answered _ fun _ _ accepted => (setRelinquishDefault_sets accepted).2
  | setOutOfService value => exact (ladder.setOutOfService_sets value).1
  | takeChanged => rfl

end Kept

/-- The priority that an operation writes at, and what it is to leave there. -/
def Operation.write? : Operation -> Option (UInt8 × Option PointValue)
  | .write priority value => some (priority, value.stored?)
  | .relinquish priority => some (priority, none)
  | _ => none

/-- Whether an operation is a command. -/
def Operation.isCommand : Operation -> Bool
  | .write .. | .relinquish .. | .setRelinquishDefault .. => true
  | .setOutOfService .. | .takeChanged => false

/-- The commands that a point takes. -/
def Operation.IsAcceptable (kind : ValueKind) (numberOfStates : Option UInt32) :
    Operation -> Prop
  | .write priority value =>
      IsCommandable priority ∧ ∀ held ∈ value.stored?, held.Fits kind numberOfStates
  | .relinquish priority => IsCommandable priority
  | .setRelinquishDefault value => value.Fits kind numberOfStates
  | .setOutOfService .. | .takeChanged => False

/-- Everything that an operation can do to a ladder, with what has to be the case for it. -/
inductive Performed (ladder : PriorityLadder) : Operation -> Answer × PriorityLadder -> Prop where
  | stored {operation : Operation} {priority : UInt8} {held : Option PointValue}
      {slot : Fin priorityLevels}
      (acceptable : operation.IsAcceptable ladder.kind ladder.numberOfStates)
      (writes : operation.write? = some (priority, held)) (place : slotOf? priority = some slot) :
      Performed ladder operation
        (ladder.commanded { ladder with slots := ladder.slots.set slot.val held slot.isLt })
  | defaulted {value : PointValue} (fits : value.Fits ladder.kind ladder.numberOfStates) :
      Performed ladder (.setRelinquishDefault value)
        (ladder.commanded { ladder with relinquishDefault := value })
  | refused {operation : Operation} (error : ProtocolError) (command : operation.isCommand = true)
      (unacceptable : ¬ operation.IsAcceptable ladder.kind ladder.numberOfStates) :
      Performed ladder operation (.refused error, ladder)
  | flipped {value : Bool} (differs : ladder.outOfService ≠ value) :
      Performed ladder (.setOutOfService value)
        (.done, { ladder with outOfService := value, changed := true })
  | kept : Performed ladder (.setOutOfService ladder.outOfService) (.done, ladder)
  | asked : Performed ladder .takeChanged (.changed ladder.changed, { ladder with changed := false })

section Performed

variable {ladder : PriorityLadder} (matched : IsMatched ladder.kind ladder.numberOfStates)
include matched

/-- A write is checked for its priority first and for its value second. -/
theorem performed_write (priority : UInt8) (value : WriteValue) :
    Performed ladder (.write priority value) (ladder.perform (.write priority value)) := by
  cases place : commandableSlot priority with
  | error cause =>
      have refuses : ladder.write priority value = .error cause := by rw [write, place]; rfl
      rw [perform, refuses]
      refine .refused cause rfl fun acceptable => ?_
      obtain ⟨slot, found⟩ := exists_slot acceptable.1
      rw [place] at found
      cases found
  | ok slot =>
      obtain ⟨commandable, place'⟩ := commandableSlot_eq_ok_iff.mp place
      cases value with
      | null =>
          have accepts : ladder.write priority .null =
              .ok (settle { ladder with slots := ladder.slots.set slot.val none slot.isLt }
                ladder.resolve) := by
            rw [write, place]; rfl
          rw [perform, accepts]
          exact .stored ⟨commandable, by simp [WriteValue.stored?]⟩ rfl place'
      | value held =>
          have fits := checkValue_eq_ok_iff matched held
          cases checked : ladder.checkValue held with
          | error cause =>
              have refuses : ladder.write priority (.value held) = .error cause := by
                rw [write, place]; simp only [bind, Except.bind, checked]
              rw [perform, refuses]
              refine .refused cause rfl fun acceptable => ?_
              have granted := fits.mpr (acceptable.2 held rfl)
              rw [checked] at granted
              cases granted
          | ok =>
              have accepts : ladder.write priority (.value held) =
                  .ok (settle { ladder with slots := ladder.slots.set slot.val (some held) slot.isLt }
                    ladder.resolve) := by
                rw [write, place]; simp only [bind, Except.bind, checked]; rfl
              rw [perform, accepts]
              refine .stored ⟨commandable, ?_⟩ rfl place'
              intro stored same
              cases same
              exact fits.mp checked

/-- A relinquishment is a write of nothing. -/
theorem performed_relinquish (priority : UInt8) :
    Performed ladder (.relinquish priority) (ladder.perform (.relinquish priority)) := by
  have same : ladder.perform (.relinquish priority) =
      ladder.perform (.write priority .null) := rfl
  have done := performed_write matched priority .null
  rw [← same] at done
  generalize ladder.perform (.relinquish priority) = result at done ⊢
  cases done with
  | stored acceptable writes place =>
      cases writes
      exact .stored acceptable.1 rfl place
  | refused error command unacceptable =>
      exact .refused error rfl fun acceptable =>
        unacceptable ⟨acceptable, by simp [WriteValue.stored?]⟩

/-- A default is taken over if it fits, and refused if it does not. -/
theorem performed_setRelinquishDefault (value : PointValue) :
    Performed ladder (.setRelinquishDefault value)
      (ladder.perform (.setRelinquishDefault value)) := by
  have fits := checkValue_eq_ok_iff matched value
  cases checked : ladder.checkValue value with
  | error cause =>
      have refuses : ladder.setRelinquishDefault value = .error cause := by
        rw [setRelinquishDefault, checked]; rfl
      rw [perform, refuses]
      refine .refused cause rfl fun acceptable => ?_
      rw [fits.mpr acceptable] at checked
      cases checked
  | ok =>
      have accepts : ladder.setRelinquishDefault value =
          .ok (settle { ladder with relinquishDefault := value } ladder.resolve) := by
        rw [setRelinquishDefault, checked]; rfl
      rw [perform, accepts]
      exact .defaulted (fits.mp checked)

omit matched in
/-- The service flag can always be set, and only a flip of it is noticed. -/
theorem performed_setOutOfService (value : Bool) :
    Performed ladder (.setOutOfService value) (ladder.perform (.setOutOfService value)) := by
  by_cases same : ladder.outOfService = value
  · subst same
    have stays : ladder.perform (.setOutOfService ladder.outOfService) = (.done, ladder) := by
      simp [perform, setOutOfService]
    rw [stays]
    exact .kept
  · have flips : ladder.perform (.setOutOfService value) =
        (.done, { ladder with outOfService := value, changed := true }) := by
      simp [perform, setOutOfService, same]
    rw [flips]
    exact .flipped same

/-- An operation does nothing beyond what `Performed` lists. -/
theorem performed (operation : Operation) :
    Performed ladder operation (ladder.perform operation) := by
  cases operation with
  | write priority value => exact performed_write matched priority value
  | relinquish priority => exact performed_relinquish matched priority
  | setRelinquishDefault value => exact performed_setRelinquishDefault matched value
  | setOutOfService value => exact performed_setOutOfService value
  | takeChanged => exact .asked

end Performed

end PriorityLadder

end Annunciator
