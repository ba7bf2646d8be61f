import Annunciator.Json.Form
import Annunciator.SortedMap

/-!
# Identities

The objects of a station and the devices on its network. Objects are ordered by
type and then by instance number, and everything that lists objects lists them
in this order.
-/

namespace Annunciator

/-- The types of objects that take commands and report events. -/
inductive ObjectType where
  | binaryOutput
  | binaryValue
  | multiStateOutput
  | multiStateValue
  deriving DecidableEq, Repr

namespace ObjectType

/-- The object types in ascending order. -/
def all : List ObjectType :=
  [binaryOutput, binaryValue, multiStateOutput, multiStateValue]

/-- The written name of an object type. -/
def name : ObjectType -> String
  | binaryOutput => "binary-output"
  | binaryValue => "binary-value"
  | multiStateOutput => "multi-state-output"
  | multiStateValue => "multi-state-value"

/-- The place of an object type among all of them. -/
def rank : ObjectType -> Nat
  | binaryOutput => 0
  | binaryValue => 1
  | multiStateOutput => 2
  | multiStateValue => 3

/-- An object type is determined by its place. -/
theorem rank_injective {left right : ObjectType} (same : left.rank = right.rank) :
    left = right := by
  cases left <;> cases right <;> simp_all [rank]

instance : KeyOrder ObjectType := .byRank rank rank_injective

/-- Whether objects of this type are either active or inactive. -/
def isBinary : ObjectType -> Bool
  | binaryOutput | binaryValue => true
  | multiStateOutput | multiStateValue => false

instance : JsonForm ObjectType where
  toJson type := .text type.name
  ofJson? := Json.named? all name

end ObjectType

/-- An object of a station: its type and its instance number. -/
structure ObjectId where
  objectType : ObjectType
  number : UInt32
  deriving DecidableEq, Repr

namespace ObjectId

/-- The written form of an object, such as `binary-output:1`. -/
def display (object : ObjectId) : String :=
  object.objectType.name ++ ":" ++ toString object.number.toNat

/-- A position that grows with the type and, within a type, with the number. -/
def rank (object : ObjectId) : Nat :=
  object.objectType.rank * UInt32.size + object.number.toNat

/-- An object is determined by its position. -/
theorem rank_injective {left right : ObjectId} (same : left.rank = right.rank) :
    left = right := by
  obtain ⟨leftType, leftNumber⟩ := left
  obtain ⟨rightType, rightNumber⟩ := right
  have leftBelow := leftNumber.toNat_lt_size
  have rightBelow := rightNumber.toNat_lt_size
  simp only [rank, UInt32.size] at *
  have types : leftType.rank = rightType.rank := by omega
  have numbers : leftNumber.toNat = rightNumber.toNat := by omega
  rw [ObjectType.rank_injective types, UInt32.toNat_inj.mp numbers]

instance : KeyOrder ObjectId := .byRank rank rank_injective

/-- Every object of a type comes before every object of a later type. -/
theorem lt_of_objectType {left right : ObjectId}
    (below : left.objectType.rank < right.objectType.rank) : left < right := by
  have leftBelow := left.number.toNat_lt_size
  change left.objectType.rank * UInt32.size + left.number.toNat <
    right.objectType.rank * UInt32.size + right.number.toNat
  simp only [UInt32.size] at *
  omega

/-- How two objects lie to each other in the order of objects. -/
def order (left right : ObjectId) : Ordering :=
  if left < right then .lt else if right < left then .gt else .eq

instance : JsonForm ObjectId where
  toJson object := .object
    [("object_type", toJson object.objectType), ("instance", toJson object.number)]
  ofJson? value := do
    let members <- value.members?
    some ⟨<- Json.required? members "object_type", <- Json.required? members "instance"⟩

end ObjectId

/-- The largest number an object or a device can have; numbers have 22 bits. -/
def largestInstance : UInt32 := 0x003FFFFF

/-- A device on the network, by its number. -/
structure DeviceInstance where
  number : UInt32
  deriving DecidableEq, Repr

namespace DeviceInstance

/-- Whether the number can belong to a device; number 0 never does. -/
def isAssigned (device : DeviceInstance) : Bool :=
  device.number ≠ 0 && device.number ≤ largestInstance

/-- The written form of a device, such as `device:5`. -/
def display (device : DeviceInstance) : String :=
  "device:" ++ toString device.number.toNat

/-- A device is determined by its number. -/
theorem number_injective {left right : DeviceInstance} (same : left.number = right.number) :
    left = right := by
  cases left
  cases right
  cases same
  rfl

/-- Devices in the order of their numbers. -/
instance : KeyOrder DeviceInstance := .byRank number number_injective

instance : JsonForm DeviceInstance where
  toJson device := toJson device.number
  ofJson? value := (ofJson? value).map mk

end DeviceInstance

end Annunciator
