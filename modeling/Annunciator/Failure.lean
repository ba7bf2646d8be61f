import Annunciator.EventState
import Annunciator.Identity

/-!
# Failures

Why a request is refused, why an object cannot be set up, and why an
acknowledgment is turned down. Each is a cause; its wording is given once.
-/

namespace Annunciator

/-- The broad category that a refusal is filed under. -/
inductive ErrorClass where
  | object
  | property
  | resources
  | services
  deriving DecidableEq, Repr

namespace ErrorClass

/-- All categories. -/
def all : List ErrorClass := [object, property, resources, services]

/-- The written name of a category. -/
def name : ErrorClass -> String
  | object => "object"
  | property => "property"
  | resources => "resources"
  | services => "services"

instance : JsonForm ErrorClass where
  toJson category := .text category.name
  ofJson? := Json.named? all name

end ErrorClass

/-- The specific reason of a refusal. -/
inductive ErrorCode where
  | writeAccessDenied
  | valueOutOfRange
  | invalidDataType
  | unknownObject
  | unknownProperty
  | invalidArrayIndex
  | propertyIsNotAnArray
  | invalidEventState
  | invalidTimeStamp
  | noSpaceToWriteProperty
  deriving DecidableEq, Repr

namespace ErrorCode

/-- All reasons. -/
def all : List ErrorCode :=
  [writeAccessDenied, valueOutOfRange, invalidDataType, unknownObject, unknownProperty,
    invalidArrayIndex, propertyIsNotAnArray, invalidEventState, invalidTimeStamp,
    noSpaceToWriteProperty]

/-- The words of a reason. -/
def words : ErrorCode -> List String
  | writeAccessDenied => ["write", "access", "denied"]
  | valueOutOfRange => ["value", "out", "of", "range"]
  | invalidDataType => ["invalid", "data", "type"]
  | unknownObject => ["unknown", "object"]
  | unknownProperty => ["unknown", "property"]
  | invalidArrayIndex => ["invalid", "array", "index"]
  | propertyIsNotAnArray => ["property", "is", "not", "an", "array"]
  | invalidEventState => ["invalid", "event", "state"]
  | invalidTimeStamp => ["invalid", "time", "stamp"]
  | noSpaceToWriteProperty => ["no", "space", "to", "write", "property"]

/-- The saved name of a reason, its words joined by underscores. -/
def name (code : ErrorCode) : String := "_".intercalate code.words

/-- The name of a reason in a message, its words joined by dashes. -/
def display (code : ErrorCode) : String := "-".intercalate code.words

instance : JsonForm ErrorCode where
  toJson code := .text code.name
  ofJson? := Json.named? all name

end ErrorCode

/-- A refusal as it is returned to the requester. -/
structure ProtocolError where
  category : ErrorClass
  code : ErrorCode
  deriving DecidableEq, Repr

namespace ProtocolError

/-- A priority that is reserved. -/
def writeAccessDenied : ProtocolError := ⟨.property, .writeAccessDenied⟩

/-- A priority or a state number outside its range. -/
def valueOutOfRange : ProtocolError := ⟨.property, .valueOutOfRange⟩

/-- A value of the wrong kind. -/
def invalidDataType : ProtocolError := ⟨.property, .invalidDataType⟩

/-- An object or a class that does not exist. -/
def unknownObject : ProtocolError := ⟨.object, .unknownObject⟩

/-- An acknowledgment of a state that needs none and is not the current one. -/
def invalidEventState : ProtocolError := ⟨.services, .invalidEventState⟩

/-- An acknowledgment whose time stamp is no moment or too early. -/
def invalidTimeStamp : ProtocolError := ⟨.services, .invalidTimeStamp⟩

/-- A recipient list longer than a class can hold. -/
def noSpaceToWriteProperty : ProtocolError := ⟨.resources, .noSpaceToWriteProperty⟩

/-- The wording of a refusal. -/
def message (error : ProtocolError) : String :=
  error.category.name ++ ": " ++ error.code.display

end ProtocolError

/-- Why an object cannot be set up as described. -/
inductive ValidationError where
  | emptyName
  | noStates
  | stateOutOfRange (value max : UInt32)
  | valueKindMismatch
  | wrongObjectType (object : ObjectId) (expected : ObjectType)
  | duplicateObject (object : ObjectId)
  deriving DecidableEq, Repr

namespace ValidationError

/-- The wording of a failed set-up. -/
def message : ValidationError -> String
  | emptyName => "name must not be empty"
  | noStates => "number of states must be at least 1"
  | stateOutOfRange value max =>
      "value " ++ toString value.toNat ++ " is outside 1..=" ++ toString max.toNat
  | valueKindMismatch => "value kind does not match the object type"
  | wrongObjectType object expected =>
      "object " ++ object.display ++ " does not belong to a " ++ expected.name ++ " table"
  | duplicateObject object => "object " ++ object.display ++ " already exists"

end ValidationError

/-- Why an acknowledgment is turned down. -/
inductive AckError where
  /-- The request breaks a rule of order or state. -/
  | rejected (cause : ProtocolError)
  /-- No transition ends in the state that the request names. -/
  | unsupportedState (state : EventState)
  deriving DecidableEq, Repr

namespace AckError

/-- The wording of a turned-down acknowledgment. -/
def message : AckError -> String
  | rejected _ => "acknowledgment rejected"
  | unsupportedState state => "event state " ++ state.name ++ " cannot be acknowledged"

end AckError

/-- A chain of steps is granted exactly when each of its steps is. -/
theorem bind_eq_ok_iff {Error First Last : Type} {first : Except Error First}
    {next : First -> Except Error Last} {last : Last} :
    first >>= next = .ok last ↔ ∃ result, first = .ok result ∧ next result = .ok last := by
  cases first <;> simp [bind, Except.bind]

end Annunciator
