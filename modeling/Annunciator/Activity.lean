import Annunciator.Recipient
import Annunciator.Report

/-!
# Activities and their effects

A station acts on the world around it: it looks up and discovers addresses, sends
notifications, drives outputs, saves settings and publishes events. Every such act
is a value, an `Effect`, and an `Activity` is a function on a state that answers
something and lists the effects it had on the way, oldest first.
-/

namespace Annunciator

/-- A notification handed to the network. -/
structure Transmission where
  address : NetworkAddress
  confirmed : Bool
  notification : EventNotification
  deriving DecidableEq, Repr

/-- Why a notification could not be handed to the network. -/
inductive TransportError where
  | unreachable (address : NetworkAddress)
  | busy
  | other (reason : String)
  deriving DecidableEq, Repr

/-- The wording of a failed transmission. -/
def TransportError.message : TransportError -> String
  | unreachable address => "no route to " ++ address.display
  | busy => "no free transaction slot"
  | other reason => "transport failure: " ++ reason

/-- Why a setting could not be saved. -/
inductive StoreError where
  | backend (reason : String)
  deriving DecidableEq, Repr

/-- The wording of a failed save. -/
def StoreError.message : StoreError -> String
  | backend reason => "settings backend failure: " ++ reason

/-- One act of a station on the world around it, with what came back. -/
inductive Effect where
  /-- The address of a device was looked up. -/
  | bind (device : DeviceInstance) (found : Option NetworkAddress)
  /-- Everybody was asked where a device is. -/
  | discover (device : DeviceInstance)
  /-- A station was asked which device it is. -/
  | discoverAt (address : NetworkAddress)
  /-- The address of a device was forgotten. -/
  | release (device : DeviceInstance)
  | send (transmission : Transmission) (failure : Option TransportError)
  /-- A value was driven to the physical output. -/
  | apply (object : ObjectId) (old new : PointValue)
  | save (key : String) (value : Json) (failure : Option StoreError)
  | publish (event : BusEvent)
  deriving Repr

/-- What an activity leaves behind. -/
structure Outcome (State Answer : Type) where
  answer : Answer
  state : State
  effects : List Effect

/-- A function on a state that answers something and has effects. -/
def Activity (State Answer : Type) : Type := State -> Outcome State Answer

namespace Activity

variable {State Outer Answer Next : Type}

/-- Answer without doing anything. -/
protected def pure (answer : Answer) : Activity State Answer := fun state =>
  ⟨answer, state, []⟩

/-- Do one activity and then the one that its answer calls for. -/
protected def bind (first : Activity State Answer)
    (next : Answer -> Activity State Next) : Activity State Next := fun state =>
  let outcome := first state
  let final := next outcome.answer outcome.state
  ⟨final.answer, final.state, outcome.effects ++ final.effects⟩

instance : Monad (Activity State) where
  pure := Activity.pure
  bind := Activity.bind

/-- Activities in sequence do not depend on how they are grouped, and answering
adds nothing to them. -/
instance : LawfulMonad (Activity State) :=
  LawfulMonad.mk' _
    (fun activity => funext fun state => by
      simp only [Functor.map, Activity.bind, Activity.pure, Function.comp_def, id,
        List.append_nil])
    (fun _ _ => funext fun _ => by
      simp only [bind, pure, Activity.bind, Activity.pure, List.nil_append])
    (fun _ _ _ => funext fun _ => by
      simp only [bind, Activity.bind, List.append_assoc])

/-- Answer with the state. -/
def get : Activity State State := fun state => ⟨state, state, []⟩

/-- Change the state. -/
def modify (change : State -> State) : Activity State Unit := fun state =>
  ⟨(), change state, []⟩

/-- Have an effect. -/
def emit (effect : Effect) : Activity State Unit := fun state => ⟨(), state, [effect]⟩

/-- Act on a part of a larger state. -/
def within (part : Outer -> State) (replace : Outer -> State -> Outer)
    (activity : Activity State Answer) : Activity Outer Answer := fun whole =>
  let outcome := activity (part whole)
  ⟨outcome.answer, replace whole outcome.state, outcome.effects⟩

end Activity

end Annunciator
