import Annunciator.Json.Form

/-!
# Event states and transitions

The states that event reporting moves an object through, the three kinds of
transitions between them, and what is kept once per kind.
-/

namespace Annunciator

/-- The event state of an object. Points only ever enter `normal`, `fault` and
`offnormal`; the others can be named by an acknowledgment and are refused there. -/
inductive EventState where
  | normal
  | fault
  | offnormal
  | highLimit
  | lowLimit
  | lifeSafetyAlarm
  deriving DecidableEq, Repr

namespace EventState

/-- All event states. -/
def all : List EventState :=
  [normal, fault, offnormal, highLimit, lowLimit, lifeSafetyAlarm]

/-- The written name of an event state. -/
def name : EventState -> String
  | normal => "normal"
  | fault => "fault"
  | offnormal => "offnormal"
  | highLimit => "high-limit"
  | lowLimit => "low-limit"
  | lifeSafetyAlarm => "life-safety-alarm"

instance : JsonForm EventState where
  toJson state := .text state.name
  ofJson? := Json.named? all name

end EventState

/-- The kinds of transitions, each named for the state it ends in. -/
inductive Transition where
  | toOffnormal
  | toFault
  | toNormal
  deriving DecidableEq, Repr

namespace Transition

/-- The kinds in their fixed order. -/
def all : List Transition := [toOffnormal, toFault, toNormal]

/-- The written name of a kind. -/
def name : Transition -> String
  | toOffnormal => "to-offnormal"
  | toFault => "to-fault"
  | toNormal => "to-normal"

/-- The place of a kind in the fixed order. -/
def index : Transition -> Nat
  | toOffnormal => 0
  | toFault => 1
  | toNormal => 2

/-- The state that a transition of this kind ends in. -/
def target : Transition -> EventState
  | toOffnormal => .offnormal
  | toFault => .fault
  | toNormal => .normal

/-- The kind that ends in a state, for the states that points enter. -/
def entering? : EventState -> Option Transition
  | .offnormal => some toOffnormal
  | .fault => some toFault
  | .normal => some toNormal
  | .highLimit | .lowLimit | .lifeSafetyAlarm => none

/-- A kind enters the state that it ends in. -/
@[simp] theorem entering?_target (kind : Transition) : entering? kind.target = some kind := by
  cases kind <;> rfl

/-- A kind ends in exactly the states it is entered by. -/
theorem entering?_eq_some_iff {state : EventState} {kind : Transition} :
    entering? state = some kind ↔ state = kind.target := by
  cases state <;> cases kind <;> simp [entering?, target]

/-- A kind is told by the state that it ends in. -/
theorem target_injective {kind other : Transition} (same : kind.target = other.target) :
    kind = other := by
  have entered := entering?_target kind
  rw [same, entering?_target, Option.some.injEq] at entered
  exact entered.symm

instance : JsonForm Transition where
  toJson kind := .text kind.name
  ofJson? := Json.named? all name

end Transition

/-- One value for every kind of transition. -/
structure PerTransition (α : Type) where
  toOffnormal : α
  toFault : α
  toNormal : α
  deriving DecidableEq, Repr

namespace PerTransition

variable {α : Type}

/-- The same value for every kind. -/
def replicate (value : α) : PerTransition α := ⟨value, value, value⟩

/-- The value of a kind. -/
def get (values : PerTransition α) : Transition -> α
  | .toOffnormal => values.toOffnormal
  | .toFault => values.toFault
  | .toNormal => values.toNormal

/-- Give a kind another value. -/
def set (values : PerTransition α) (kind : Transition) (value : α) : PerTransition α :=
  match kind with
  | .toOffnormal => { values with toOffnormal := value }
  | .toFault => { values with toFault := value }
  | .toNormal => { values with toNormal := value }

@[simp] theorem get_replicate (value : α) (kind : Transition) :
    (replicate value).get kind = value := by
  cases kind <;> rfl

@[simp] theorem get_set_self (values : PerTransition α) (kind : Transition) (value : α) :
    (values.set kind value).get kind = value := by
  cases kind <;> rfl

@[simp] theorem get_set_ne (values : PerTransition α) {kind other : Transition}
    (differ : kind ≠ other) (value : α) :
    (values.set kind value).get other = values.get other := by
  cases kind <;> cases other <;> simp_all [set, get]

/-- Only the kind that is given another value changes. -/
theorem get_set (values : PerTransition α) (kind other : Transition) (value : α) :
    (values.set kind value).get other = if kind = other then value else values.get other := by
  split
  · next same => rw [← same, get_set_self]
  · next differ => exact get_set_ne values differ value

/-- A family is written as the list of its values in the order of the kinds. -/
instance [JsonForm α] : JsonForm (PerTransition α) where
  toJson values :=
    .list [toJson values.toOffnormal, toJson values.toFault, toJson values.toNormal]
  ofJson?
    | .list [first, second, third] => do
        some ⟨<- ofJson? first, <- ofJson? second, <- ofJson? third⟩
    | _ => none

end PerTransition

/-- A set of transition kinds. -/
structure TransitionSet where
  toOffnormal : Bool
  toFault : Bool
  toNormal : Bool
  deriving DecidableEq, Repr

namespace TransitionSet

/-- No kind at all. -/
def none : TransitionSet := ⟨false, false, false⟩

/-- Every kind. -/
def all : TransitionSet := ⟨true, true, true⟩

/-- Whether a kind belongs to the set. -/
def contains (set : TransitionSet) : Transition -> Bool
  | .toOffnormal => set.toOffnormal
  | .toFault => set.toFault
  | .toNormal => set.toNormal

/-- The set that holds a kind or not and agrees on the other kinds. -/
def withMember (set : TransitionSet) (kind : Transition) (value : Bool) : TransitionSet :=
  match kind with
  | .toOffnormal => { set with toOffnormal := value }
  | .toFault => { set with toFault := value }
  | .toNormal => { set with toNormal := value }

/-- The set of a raw mask, whose bit 0 is to-offnormal, bit 1 to-fault and bit 2
to-normal; other bits mean nothing. -/
def ofBits (bits : UInt8) : TransitionSet :=
  ⟨bits &&& 1 ≠ 0, bits &&& 2 ≠ 0, bits &&& 4 ≠ 0⟩

/-- The raw mask of a set. -/
def bits (set : TransitionSet) : UInt8 :=
  (if set.toOffnormal then 1 else 0) ||| (if set.toFault then 2 else 0)
    ||| (if set.toNormal then 4 else 0)

/-- A kind that is not mentioned is not a member. -/
instance : JsonForm TransitionSet where
  toJson set := .object
    [("to_offnormal", toJson set.toOffnormal), ("to_fault", toJson set.toFault),
      ("to_normal", toJson set.toNormal)]
  ofJson? value := do
    let members <- value.members?
    some {
      toOffnormal := <- Json.defaulted? members "to_offnormal" false
      toFault := <- Json.defaulted? members "to_fault" false
      toNormal := <- Json.defaulted? members "to_normal" false }

end TransitionSet

/-- What a record of an event is: an alarm, a plain event, or the announcement of
an acknowledgment. -/
inductive NotifyType where
  | alarm
  | event
  | ackNotification
  deriving DecidableEq, Repr

namespace NotifyType

/-- All notify types. -/
def all : List NotifyType := [alarm, event, ackNotification]

/-- The written name of a notify type. -/
def name : NotifyType -> String
  | alarm => "alarm"
  | event => "event"
  | ackNotification => "ack-notification"

instance : JsonForm NotifyType where
  toJson type := .text type.name
  ofJson? := Json.named? all name

end NotifyType

/-- The algorithm that an event comes from. -/
inductive EventType where
  | changeOfState
  deriving DecidableEq, Repr

namespace EventType

/-- The one algorithm. -/
def all : List EventType := [changeOfState]

/-- The written name of an algorithm. -/
def name : EventType -> String
  | changeOfState => "change-of-state"

instance : JsonForm EventType where
  toJson type := .text type.name
  ofJson? := Json.named? all name

end EventType

end Annunciator
