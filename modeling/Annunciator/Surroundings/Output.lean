import Annunciator.Activity

/-!
# The physical output

What was driven to the equipment behind the points, in order.
-/

namespace Annunciator

/-- The values driven to the output so far, oldest first. -/
structure OutputLog where
  applied : List (ObjectId × PointValue)
  deriving DecidableEq

namespace OutputLog

/-- Nothing has been driven yet. -/
def empty : OutputLog := ⟨[]⟩

/-- The last value driven for an object, if any. -/
def last? (log : OutputLog) (object : ObjectId) : Option PointValue :=
  (log.applied.reverse.find? (·.1 = object)).map Prod.snd

/-- The number of values driven. -/
def count (log : OutputLog) : Nat := log.applied.length

/-- Drive a value. An unchanged value is driven again. -/
def apply (object : ObjectId) (old new : PointValue) : Activity OutputLog Unit := do
  Activity.emit (.apply object old new)
  Activity.modify fun log => ⟨log.applied ++ [(object, new)]⟩

end OutputLog

end Annunciator
