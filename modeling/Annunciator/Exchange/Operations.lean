import Annunciator.Station.Operation

/-!
# Operations as requests

An operation is asked for by its name and the members that it needs. A request whose
members cannot be read asks for nothing.
-/

namespace Annunciator

open Json (required? defaulted?)

/-- The operation on a ladder with a name. -/
def PriorityLadder.Operation.named? (name : String) (members : List (String × Json)) :
    Option PriorityLadder.Operation :=
  match name with
  | "write" => do some (.write (<- required? members "priority") (<- required? members "value"))
  | "relinquish" => do some (.relinquish (<- required? members "priority"))
  | "set_relinquish_default" => do
      some (.setRelinquishDefault (<- required? members "value"))
  | "set_out_of_service" => do some (.setOutOfService (<- required? members "value"))
  | "take_changed" => some .takeChanged
  | _ => none

/-- The operation on a monitor with a name. A condition that is not mentioned does
not hold. -/
def Monitor.Operation.named? (name : String) (members : List (String × Json)) :
    Option Monitor.Operation :=
  match name with
  | "tick" => do
      let offnormal : Option Bool <- required? members "offnormal"
      let fault : Option Bool <- required? members "fault"
      some (.tick ⟨offnormal.getD false, fault.getD false⟩
        (<- required? members "ack_required") (<- required? members "now"))
  | "acknowledge" => do
      some (.acknowledge (<- required? members "state") (<- required? members "timestamp"))
  | "set_time_delay" => do some (.setTimeDelay (<- required? members "value"))
  | "set_event_enable" => do some (.setEventEnable (<- required? members "value"))
  | "set_notify_type" => do some (.setNotifyType (<- required? members "value"))
  | _ => none

/-- The operation on a point with a name; among them are those on its ladder. -/
def Point.Operation.named? (name : String) (members : List (String × Json)) :
    Option Point.Operation :=
  match name with
  | "set_reliability" => do some (.setReliability (<- required? members "value"))
  | "set_notification_class" => do
      some (.setNotificationClass (<- required? members "value"))
  | "tick" => do
      some (.tick (<- required? members "ack_required") (<- required? members "now"))
  | "acknowledge" => do some (.acknowledge (<- required? members "request"))
  | "set_time_delay" => do some (.setTimeDelay (<- required? members "value"))
  | "set_event_enable" => do some (.setEventEnable (<- required? members "value"))
  | "set_notify_type" => do some (.setNotifyType (<- required? members "value"))
  | _ => (PriorityLadder.Operation.named? name members).map .ladder

/-- The operation on a station with a name. -/
def Station.Operation.named? (name : String) (members : List (String × Json)) :
    Option Station.Operation :=
  match name with
  | "write" => do
      some (.write (<- required? members "object") (<- required? members "priority")
        (<- required? members "value"))
  | "relinquish" => do
      some (.relinquish (<- required? members "object") (<- required? members "priority"))
  | "set_relinquish_default" => do
      some (.setRelinquishDefault (<- required? members "object")
        (<- required? members "value"))
  | "set_out_of_service" => do
      some (.setOutOfService (<- required? members "object") (<- required? members "value"))
  | "set_reliability" => do
      some (.setReliability (<- required? members "object") (<- required? members "value"))
  | "set_recipients" => do
      some (.setRecipients (<- required? members "instance")
        (<- required? members "recipients"))
  | "alarm_ack" => do some (.acknowledge (<- required? members "request"))
  | "tick" => some .tick
  | "sweep" => some .sweep
  | "set_now" => do some (.setClock (<- required? members "now"))
  | _ => none

end Annunciator
