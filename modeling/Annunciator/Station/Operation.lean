import Annunciator.Station.Alarms
import Annunciator.Station.Commands
import Annunciator.Station.Evaluation
import Annunciator.Station.Recipients

/-!
# Runs of a station

Everything that a station is asked to do, as data: its life is a list of operations,
and what it does in it follows from the state that it starts in.
-/

namespace Annunciator.Station

/-- What a station can be asked to do. -/
inductive Operation where
  | write (object : ObjectId) (priority : UInt8) (value : WriteValue)
  | relinquish (object : ObjectId) (priority : UInt8)
  | setRelinquishDefault (object : ObjectId) (value : PointValue)
  | setOutOfService (object : ObjectId) (value : Bool)
  | setReliability (object : ObjectId) (reliability : Reliability)
  | setRecipients (number : UInt32) (entries : List Destination)
  | acknowledge (request : AckRequest)
  | tick
  | sweep
  | setClock (now : Timestamp)
  deriving DecidableEq, Repr

/-- What a station answers. -/
inductive Answer where
  | value (value : PointValue)
  | recipients (update : RecipientUpdate)
  | acked (outcome : AckOutcome)
  | records (records : List EventRecord)
  /-- The number of devices without an address. -/
  | missing (count : Nat)
  | done
  | refused (error : ProtocolError)
  | notAcked (error : AckError)
  deriving DecidableEq, Repr

/-- The answer to an operation that can be refused. -/
def answerOf {Result : Type} (accepted : Result -> Answer) :
    Except ProtocolError Result -> Answer
  | .ok result => accepted result
  | .error error => .refused error

/-- The answer to an acknowledgment. -/
def ackAnswerOf : Except AckError AckOutcome -> Answer
  | .ok outcome => .acked outcome
  | .error error => .notAcked error

/-- Do what is asked. -/
def perform : Operation -> Activity Station Answer
  | .write object priority value => answerOf .value <$> write object priority value
  | .relinquish object priority => answerOf .value <$> relinquish object priority
  | .setRelinquishDefault object value =>
      answerOf .value <$> setRelinquishDefault object value
  | .setOutOfService object value =>
      answerOf (fun _ => .done) <$> setOutOfService object value
  | .setReliability object reliability =>
      answerOf (fun _ => .done) <$> setReliability object reliability
  | .setRecipients number entries => answerOf .recipients <$> setRecipients number entries
  | .acknowledge request => ackAnswerOf <$> acknowledge request
  | .tick => .records <$> tick
  | .sweep => .missing <$> sweep
  | .setClock now => do
      Activity.modify fun station => { station with clock := now }
      pure .done

/-- Do everything that is asked, in order. -/
def run (operations : List Operation) : Activity Station (List Answer) :=
  operations.mapM perform

end Annunciator.Station
