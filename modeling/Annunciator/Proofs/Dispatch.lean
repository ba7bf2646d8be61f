import Annunciator.Proofs.Network

/-!
# What a dispatch sends

Dispatching a record adds to what was sent, and the additions can be read off its effects: they
are the transmissions that nothing was in the way of, in their order. What had been sent before
plays no part in it, so the records of a tick can be looked at one by one.
-/

namespace Annunciator

/-- The transmission of an effect, if it got through. -/
def Effect.transmission? : Effect -> Option Transmission
  | .send transmission none => some transmission
  | .send _ (some _) | .bind .. | .discover .. | .discoverAt .. | .release .. | .apply ..
  | .save .. | .publish .. => none

/-- The transmissions that got through, oldest first. -/
def transmissionsOf (effects : List Effect) : List Transmission :=
  effects.filterMap Effect.transmission?

@[simp] theorem transmissionsOf_nil : transmissionsOf [] = [] := rfl

@[simp] theorem transmissionsOf_append (earlier later : List Effect) :
    transmissionsOf (earlier ++ later) = transmissionsOf earlier ++ transmissionsOf later :=
  List.filterMap_append

/-- What got through is what was tried without a failure. -/
theorem mem_transmissionsOf_iff {effects : List Effect} {transmission : Transmission} :
    transmission ∈ transmissionsOf effects ↔ .send transmission none ∈ effects := by
  rw [transmissionsOf, List.mem_filterMap]
  constructor
  · rintro ⟨effect, member, through⟩
    cases effect with
    | send sent failure =>
        cases failure with
        | none =>
            cases through
            exact member
        | some => cases through
    | bind | discover | discoverAt | release | apply | save | publish => cases through
  · exact fun member => ⟨_, member, rfl⟩

namespace Network

variable {First Last Answer : Type}

/-- An activity that adds to what was sent the transmissions of its effects, does nothing else
to the network, and does the same whatever had been sent before. -/
def Transmits (activity : Activity Network Answer) : Prop :=
  ∀ network sent, activity { network with sent } =
    ⟨(activity network).answer,
      { network with sent := sent ++ transmissionsOf (activity network).effects },
      (activity network).effects⟩

namespace Transmits

theorem pure (answer : Answer) : Transmits (Pure.pure answer) := by
  intro network sent
  simp

section Parts

variable {activity : Activity Network Answer} (transmits : Transmits activity)
include transmits

/-- What had been sent has no part in the effects. -/
theorem effects_eq (network : Network) (sent : List Transmission) :
    (activity { network with sent }).effects = (activity network).effects := by
  rw [transmits network sent]

/-- Nothing but what the effects transmit becomes of the network. -/
theorem state_eq (network : Network) :
    (activity network).state =
      { network with sent := network.sent ++ transmissionsOf (activity network).effects } :=
  congrArg Outcome.state (transmits network network.sent)

end Parts

/-- What a second activity transmits comes behind what the first one did. -/
theorem bind {first : Activity Network First} {next : First -> Activity Network Last}
    (transmits : Transmits first) (nextTransmits : ∀ answer, Transmits (next answer)) :
    Transmits (first >>= next) := by
  intro network sent
  -- The second activity meets the same network, but for what was sent.
  have later := nextTransmits (first network).answer network
  rw [Activity.run_bind, Activity.run_bind, transmits network sent, transmits.state_eq]
  dsimp only
  rw [later (sent ++ _), later (network.sent ++ _), transmissionsOf_append, List.append_assoc]

/-- The transmissions for the members come one after the other. -/
theorem mapM {members : List First} {act : First -> Activity Network Last}
    (each : ∀ member ∈ members, Transmits (act member)) : Transmits (members.mapM act) := by
  induction members with
  | nil => exact .pure _
  | cons member rest inductionHypothesis =>
      rw [List.mapM_cons]
      refine (each member (List.mem_cons_self ..)).bind fun _ => ?_
      refine (inductionHypothesis ?_).bind fun _ => .pure _
      exact fun other later => each other (List.mem_cons_of_mem _ later)

end Transmits

/-- What is sent counts as sent exactly if its effect says that it got through. -/
theorem transmits_send (transmission : Transmission) : Transmits (send transmission) := by
  intro network sent
  have sameObstacle : obstacle? { network with sent } transmission.address =
      network.obstacle? transmission.address := rfl
  cases obstacle : network.obstacle? transmission.address <;>
    simp [send, sameObstacle, obstacle, transmissionsOf, Effect.transmission?]

/-- Looking for the address of a recipient sends nothing. -/
theorem transmits_resolve (recipient : Recipient) : Transmits (Dispatch.resolve recipient) := by
  cases recipient with
  | address address => exact .pure _
  | device device =>
      intro network sent
      simp [Dispatch.resolve, Network.bind, binding?, transmissionsOf, Effect.transmission?]

/-- A delivery is a lookup and at most one transmission. -/
theorem transmits_deliver (notification : EventNotification) (destination : Destination) :
    Transmits (Dispatch.deliver notification destination) := by
  refine (transmits_resolve destination.recipient).bind fun address => ?_
  cases address with
  | none => exact .pure _
  | some address => exact (transmits_send _).bind fun _ => .pure _

/-- Dispatching a record does nothing but send. -/
theorem transmits_report (device : DeviceInstance) (record : EventRecord)
    (group : NotificationClass) : Transmits (Dispatch.report device record group) := by
  rw [Dispatch.report]
  split
  · exact .pure _
  · exact (Transmits.mapM fun destination _ => transmits_deliver _ destination).bind fun _ =>
      .pure _

end Network

end Annunciator
