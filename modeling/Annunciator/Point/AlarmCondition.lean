import Annunciator.Monitor
import Annunciator.Value

/-!
# Alarm conditions

Which values of a point are off-normal and which are faults.
-/

namespace Annunciator

/-- The values of a point that call for attention. -/
inductive AlarmCondition where
  | binary (alarmValue : BinaryValue)
  | multiState (alarmValues faultValues : List UInt32)
  deriving DecidableEq, Repr

namespace AlarmCondition

/-- The kind of values that a condition is about. -/
def kind : AlarmCondition -> ValueKind
  | binary _ => .binary
  | multiState _ _ => .multiState

/-- Whether a value is off-normal. A value of another kind is not. -/
def isOffnormal : AlarmCondition -> PointValue -> Bool
  | binary alarmValue, .binary value => value = alarmValue
  | multiState alarmValues _, .multiState state => alarmValues.contains state
  | _, _ => false

/-- Whether a value is a fault by itself. A value of another kind is not. -/
def isFaultValue : AlarmCondition -> PointValue -> Bool
  | multiState _ faultValues, .multiState state => faultValues.contains state
  | _, _ => false

/-- The signals of a tick: a fault lies in the value or in the input behind it. -/
def evaluate (condition : AlarmCondition) (value : PointValue) (reliability : Reliability) :
    Conditions where
  offnormal := condition.isOffnormal value
  fault := condition.isFaultValue value || reliability.isFault

instance : JsonForm AlarmCondition where
  toJson
    | binary alarmValue =>
        .object [("kind", .text "binary"), ("alarm_value", toJson alarmValue)]
    | multiState alarmValues faultValues =>
        .object [("kind", .text "multi_state"), ("alarm_values", toJson alarmValues),
          ("fault_values", toJson faultValues)]
  ofJson? value := do
    let members <- value.members?
    match <- Json.required? members "kind" with
    | "binary" =>
        some (.binary (<- Json.requiredBy? members "alarm_value" (ofJson? ∘ Json.bareName)))
    | "multi_state" =>
        some (.multiState (<- Json.defaulted? members "alarm_values" [])
          (<- Json.defaulted? members "fault_values" []))
    | _ => none

end AlarmCondition

end Annunciator
