import Annunciator.Failure
import Annunciator.Value

/-!
# The priority ladder

A point is commanded at one of sixteen priorities, 1 being the highest. Its value
is the one commanded at the highest priority in use, or its relinquish default
when none is. Priority 6 is reserved and cannot be commanded.

The ladder also notices when its value or its out-of-service flag has changed
since it was last asked.
-/

namespace Annunciator

/-- The number of priorities. -/
abbrev priorityLevels : Nat := 16

/-- The priority that cannot be commanded. -/
def reservedPriority : UInt8 := 6

/-- The commanded values of a point, one slot per priority. -/
structure PriorityLadder where
  slots : Vector (Option PointValue) priorityLevels
  relinquishDefault : PointValue
  /-- The number of states of a multi-state point; nothing for a binary one. -/
  numberOfStates : Option UInt32
  outOfService : Bool
  /-- The value that the last change was noticed against. -/
  cachedValue : PointValue
  changed : Bool
  deriving DecidableEq, Repr

/-- What an accepted command did to the value of a point. -/
structure Command where
  old : PointValue
  new : PointValue
  /-- Whether the physical output is to follow. -/
  actuate : Bool
  deriving DecidableEq, Repr

/-- Whether a state number is out of the range of 1 to `max`. -/
def isOutsideStates (max state : UInt32) : Bool := state = 0 || max < state

/-- The slot of a priority between 1 and 16. -/
def slotOf? (priority : UInt8) : Option (Fin priorityLevels) :=
  if inRange : 1 ≤ priority.toNat ∧ priority.toNat ≤ priorityLevels then
    some ⟨priority.toNat - 1, by omega⟩
  else none

/-- The slot of a priority that can be commanded. -/
def commandableSlot (priority : UInt8) : Except ProtocolError (Fin priorityLevels) :=
  match slotOf? priority with
  | none => .error .valueOutOfRange
  | some slot =>
      if priority = reservedPriority then .error .writeAccessDenied else .ok slot

namespace PriorityLadder

/-- A ladder with every priority free, for a default that fits its kind and range. -/
def create (default : PointValue) (numberOfStates : Option UInt32) :
    Except ValidationError PriorityLadder :=
  let ladder : PriorityLadder :=
    ⟨.replicate _ none, default, numberOfStates, false, default, false⟩
  match default, numberOfStates with
  | .binary _, none => .ok ladder
  | .multiState state, some max =>
      if max = 0 then .error .noStates
      else if isOutsideStates max state then .error (.stateOutOfRange state max)
      else .ok ladder
  | _, _ => .error .valueKindMismatch

/-- The kind of values that the point takes. -/
def kind (ladder : PriorityLadder) : ValueKind := ladder.relinquishDefault.kind

/-- The value commanded at the highest priority in use, else the default. -/
def resolve (ladder : PriorityLadder) : PointValue :=
  (ladder.slots.toList.findSome? id).getD ladder.relinquishDefault

/-- The highest priority in use, if any. -/
def activePriority? (ladder : PriorityLadder) : Option UInt8 :=
  (ladder.slots.toList.findIdx? Option.isSome).map fun slot => UInt8.ofNat (slot + 1)

/-- The value commanded at a priority, if there is such a priority and it is in use. -/
def slot? (ladder : PriorityLadder) (priority : UInt8) : Option PointValue :=
  (slotOf? priority).bind fun slot => ladder.slots[slot]

/-- Accept a value of the right kind and, for a multi-state point, in range. -/
def checkValue (ladder : PriorityLadder) (value : PointValue) : Except ProtocolError Unit :=
  match value, ladder.numberOfStates with
  | .binary _, none => .ok ()
  | .multiState state, some max =>
      if isOutsideStates max state then .error .valueOutOfRange else .ok ()
  | _, _ => .error .invalidDataType

/-- Notice whether a change of the slots or the default changed the value. -/
def settle (ladder : PriorityLadder) (old : PointValue) : Command × PriorityLadder :=
  let new := ladder.resolve
  let command := ⟨old, new, !ladder.outOfService⟩
  if new = ladder.cachedValue then (command, ladder)
  else (command, { ladder with cachedValue := new, changed := true })

/-- Command a value at a priority, or give the priority up. -/
def write (ladder : PriorityLadder) (priority : UInt8) (value : WriteValue) :
    Except ProtocolError (Command × PriorityLadder) := do
  let slot <- commandableSlot priority
  match value with
  | .null => pure (settle { ladder with slots := ladder.slots.set slot none } ladder.resolve)
  | .value value => do
      ladder.checkValue value
      pure (settle { ladder with slots := ladder.slots.set slot (some value) } ladder.resolve)

/-- Give a priority up. -/
def relinquish (ladder : PriorityLadder) (priority : UInt8) :
    Except ProtocolError (Command × PriorityLadder) :=
  ladder.write priority .null

/-- Replace the value that holds when no priority is in use. -/
def setRelinquishDefault (ladder : PriorityLadder) (value : PointValue) :
    Except ProtocolError (Command × PriorityLadder) := do
  ladder.checkValue value
  pure (settle { ladder with relinquishDefault := value } ladder.resolve)

/-- Take the point in or out of service; only a flip counts as a change. -/
def setOutOfService (ladder : PriorityLadder) (value : Bool) : PriorityLadder :=
  if ladder.outOfService = value then ladder
  else { ladder with outOfService := value, changed := true }

/-- Whether something changed since this was last asked. -/
def takeChanged (ladder : PriorityLadder) : Bool × PriorityLadder :=
  (ladder.changed, { ladder with changed := false })

instance : JsonForm PriorityLadder where
  toJson ladder := .object
    [("slots", toJson ladder.slots),
      ("relinquish_default", toJson ladder.relinquishDefault),
      ("number_of_states", toJson ladder.numberOfStates),
      ("out_of_service", toJson ladder.outOfService),
      ("cached_value", toJson ladder.cachedValue),
      ("changed", toJson ladder.changed)]
  ofJson? value := do
    let members <- value.members?
    some {
      slots := <- Json.required? members "slots"
      relinquishDefault := <- Json.required? members "relinquish_default"
      numberOfStates := <- Json.required? members "number_of_states"
      outOfService := <- Json.required? members "out_of_service"
      cachedValue := <- Json.required? members "cached_value"
      changed := <- Json.required? members "changed" }

/-! ## Operations -/

/-- A change that can be asked of a ladder. -/
inductive Operation where
  | write (priority : UInt8) (value : WriteValue)
  | relinquish (priority : UInt8)
  | setRelinquishDefault (value : PointValue)
  | setOutOfService (value : Bool)
  | takeChanged
  deriving DecidableEq, Repr

/-- What a ladder answers to an operation. -/
inductive Answer where
  | command (command : Command)
  | refused (error : ProtocolError)
  | changed (flag : Bool)
  | done
  deriving DecidableEq, Repr

/-- The answer to a command, and the ladder after it: a refused one changes nothing. -/
def answerCommand (ladder : PriorityLadder) :
    Except ProtocolError (Command × PriorityLadder) -> Answer × PriorityLadder
  | .ok (command, after) => (.command command, after)
  | .error error => (.refused error, ladder)

/-- Carry out one operation. -/
def perform (ladder : PriorityLadder) : Operation -> Answer × PriorityLadder
  | .write priority value => ladder.answerCommand (ladder.write priority value)
  | .relinquish priority => ladder.answerCommand (ladder.relinquish priority)
  | .setRelinquishDefault value => ladder.answerCommand (ladder.setRelinquishDefault value)
  | .setOutOfService value => (.done, ladder.setOutOfService value)
  | .takeChanged =>
      let (flag, after) := ladder.takeChanged
      (.changed flag, after)

end PriorityLadder

end Annunciator
