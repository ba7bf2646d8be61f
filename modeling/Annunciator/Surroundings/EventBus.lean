import Annunciator.Activity

/-!
# The event bus

Events are published to whoever listens. The bus keeps a bounded number of the
latest events for its listener. A listener that falls further behind is told how
many events it lost and goes on with the oldest one still kept.
-/

namespace Annunciator

/-- A listener: what it has still to receive and how many events it lost. -/
structure Subscription where
  /-- The events kept for the listener, oldest first. -/
  pending : List BusEvent
  /-- The number of events lost since the listener was last told. -/
  lost : Nat
  deriving DecidableEq, Repr

/-- What a listener gets when it asks for the next event. -/
inductive Received where
  | event (event : BusEvent)
  | empty
  | lagged (lost : Nat)
  deriving DecidableEq, Repr

/-- A bus and its listener, if it has one. -/
structure EventBus where
  /-- The number of events kept for a listener. -/
  kept : Nat
  listener : Option Subscription
  deriving DecidableEq, Repr

/-- The largest capacity that a bus can be asked for: for more events there are no
addresses. -/
def largestBusCapacity : Nat := 0x0100000000000000

namespace EventBus

/-- A bus of a capacity, rounded up to a power of two. There is no bus without
capacity, and none beyond the largest capacity. -/
def open? (capacity : Nat) : Option EventBus :=
  if capacity = 0 ∨ largestBusCapacity < capacity then none
  else some ⟨capacity.nextPowerOfTwo, none⟩

/-- Listen from now on, in place of an earlier listener. -/
def subscribe (bus : EventBus) : EventBus := { bus with listener := some ⟨[], 0⟩ }

/-- Keep an event for a listener, giving up the oldest one if there are too many. -/
def Subscription.keep (kept : Nat) (listener : Subscription) (event : BusEvent) :
    Subscription :=
  let pending := listener.pending ++ [event]
  if kept < pending.length then ⟨pending.tail, listener.lost + 1⟩
  else { listener with pending }

/-- Hand an event to the listener; without one it is dropped. -/
def deliver (bus : EventBus) (event : BusEvent) : EventBus :=
  { bus with listener := bus.listener.map fun listener =>
      Subscription.keep bus.kept listener event }

/-- The next event for the listener. There is no answer without a listener. -/
def receive? (bus : EventBus) : Option (Received × EventBus) :=
  bus.listener.map fun listener =>
    if listener.lost ≠ 0 then
      (.lagged listener.lost, { bus with listener := some { listener with lost := 0 } })
    else
      match listener.pending with
      | [] => (.empty, bus)
      | event :: rest =>
          (.event event, { bus with listener := some { listener with pending := rest } })

/-- Publish an event. -/
def publish (event : BusEvent) : Activity EventBus Unit := do
  Activity.emit (.publish event)
  Activity.modify (·.deliver event)

end EventBus

end Annunciator
