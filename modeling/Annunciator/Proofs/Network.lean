import Annunciator.Dispatch
import Annunciator.Proofs.Activities
import Annunciator.Proofs.SortedMaps

/-!
# Acts on the network

What a station may do to the network, by what it is about: it looks for addresses, gives
some of them up, and tells recipients. Looking for an address never loses one, and what it
finds is the address of a peer.
-/

namespace Annunciator

open Activity (Law Obeys)

/-- An effect that is about the addresses of devices. -/
def Effect.IsAddressing : Effect -> Prop
  | .bind .. | .discover .. | .discoverAt .. | .release .. => True
  | .send .. | .apply .. | .save .. | .publish .. => False

namespace Network

/-- Whether the address of a device is known. -/
def IsBound (network : Network) (device : DeviceInstance) : Prop :=
  (network.binding? device).isSome = true

/-- What looking for addresses may do. -/
structure Learns (network : Network) (effects : List Effect) (after : Network) : Prop where
  only : ∃ bindings, after = { network with bindings }
  keeps : ∀ device, network.IsBound device -> after.IsBound device
  sound : ∀ device address, after.binding? device = some address ->
    network.binding? device = some address ∨ network.peers.get? device = some address
  addressing : ∀ effect ∈ effects, effect.IsAddressing

/-- Nobody joins or leaves the network while addresses are looked for. -/
theorem Learns.peers {network after : Network} {effects : List Effect}
    (learns : Learns network effects after) : after.peers = network.peers := by
  obtain ⟨bindings, rfl⟩ := learns.only
  rfl

/-- Looking for addresses. -/
def learning : Law Network where
  holds := Learns
  idle network :=
    ⟨⟨network.bindings, rfl⟩, fun _ bound => bound, fun _ _ known => .inl known,
      fun _ member => nomatch member⟩
  chain := by
    intro first middle last earlier later before after
    obtain ⟨bindings, same⟩ := before.only
    obtain ⟨final, sameAgain⟩ := after.only
    refine ⟨⟨final, by rw [sameAgain, same]⟩, ?_, ?_, fun effect member => ?_⟩
    · exact fun device bound => after.keeps device (before.keeps device bound)
    · intro device address known
      rcases after.sound device address known with there | found
      · exact before.sound device address there
      · rw [same] at found
        exact .inr found
    · exact (List.mem_append.mp member).elim (before.addressing effect) (after.addressing effect)

/-! ## Looking for addresses -/

/-- To look up an address changes nothing. -/
theorem learning_bind (device : DeviceInstance) : Obeys learning (bind device) := by
  intro network
  refine ⟨⟨network.bindings, rfl⟩, fun _ bound => bound, fun _ _ known => .inl known, ?_⟩
  intro effect member
  cases List.mem_singleton.mp member
  trivial

/-- What a device answers is entered in the place of what was known. -/
theorem binding?_learn (network : Network) (device other : DeviceInstance) :
    (network.learn device).binding? other =
      if device = other then (network.peers.get? device).or (network.binding? device)
      else network.binding? other := by
  rw [learn]
  cases network.peers.get? device with
  | none => split <;> simp_all
  | some address =>
      rw [binding?, SortedMap.get?_insert]
      rfl

/-- A device that is asked for its address is entered with its answer, if it gives one. -/
theorem learning_discover (device : DeviceInstance) : Obeys learning (discover device) := by
  intro network
  have final : (discover device network).state = network.learn device := rfl
  refine ⟨?_, fun other bound => ?_, fun other address known => ?_, fun effect member => ?_⟩
  · rw [final, learn]
    split
    · exact ⟨_, rfl⟩
    · exact ⟨network.bindings, rfl⟩
  · rw [final, IsBound, binding?_learn]
    split
    · next same =>
        subst same
        rw [Option.isSome_or, bound, Bool.or_true]
    · exact bound
  · rw [final, binding?_learn] at known
    split at known
    · next same =>
        subst same
        exact (Option.or_eq_some_iff.mp known).elim .inr fun there => .inl there.2
    · exact .inl known
  · cases List.mem_singleton.mp member
    trivial

/-- Every device that answers at an address is entered with it. -/
theorem binding?_learnAt (network : Network) (address : NetworkAddress)
    (device : DeviceInstance) :
    (network.learnAt address).binding? device =
      if device ∈ network.devicesAt address then some address else network.binding? device := by
  rw [binding?, learnAt, SortedMap.get?_insertAll, binding?]

/-- The devices at an address are the peers that have it. -/
theorem mem_devicesAt_iff {network : Network} {address : NetworkAddress}
    {device : DeviceInstance} :
    device ∈ network.devicesAt address ↔ network.peers.get? device = some address := by
  rw [SortedMap.get?_eq_some_iff, devicesAt]
  simp

/-- A question to an address enters every device that answers there. -/
theorem learning_discoverAt (address : NetworkAddress) :
    Obeys learning (discoverAt address) := by
  intro network
  have final : (discoverAt address network).state = network.learnAt address := rfl
  refine ⟨⟨_, rfl⟩, fun device bound => ?_, fun device found known => ?_, fun effect member => ?_⟩
  · rw [final, IsBound, binding?_learnAt]
    split
    · rfl
    · exact bound
  · rw [final, binding?_learnAt] at known
    split at known
    · next answers =>
        cases known
        exact .inr (mem_devicesAt_iff.mp answers)
    · exact .inl known
  · cases List.mem_singleton.mp member
    trivial

/-- A device is asked for its address only if none is known. -/
theorem learning_resolveDevice (device : DeviceInstance) :
    Obeys learning (resolveDevice device) := by
  refine (learning_bind device).bind fun found => ?_
  dsimp only
  split
  · exact (learning_discover device).bind fun _ => .pure _
  · exact .pure _

/-- A device is looked up, and an address is asked unless it is the broadcast. -/
theorem learning_requestBinding (recipient : Recipient) :
    Obeys learning (requestBinding recipient) := by
  cases recipient with
  | device device => exact (learning_resolveDevice device).bind fun _ => .pure _
  | address address =>
      rw [requestBinding]
      split
      · exact .pure _
      · exact learning_discoverAt address

/-- A sweep does nothing but look up devices. -/
theorem learning_sweep (devices : List DeviceInstance) : Obeys learning (sweep devices) :=
  (Obeys.mapM fun device _ => learning_resolveDevice device).bind fun _ => .pure _

/-- A lookup answers whether the device was known. -/
theorem answer_resolveDevice (network : Network) (device : DeviceInstance) :
    (resolveDevice device network).answer = (network.binding? device).isSome := by
  cases known : network.binding? device <;> simp [resolveDevice, bind, discover, known]

/-- A device that is looked up is bound to what was known of it, or else to what it answers. -/
theorem binding?_resolveDevice (network : Network) (device other : DeviceInstance) :
    (resolveDevice device network).state.binding? other =
      if device = other then (network.binding? device).or (network.peers.get? device)
      else network.binding? other := by
  have final : (resolveDevice device network).state =
      if (network.binding? device).isNone then network.learn device else network := by
    cases known : network.binding? device <;> simp [resolveDevice, bind, discover, known]
  rw [final]
  cases known : network.binding? device with
  | none => simp [binding?_learn, known]
  | some address =>
      simp only [Option.isNone_some, Bool.false_eq_true, if_false, Option.some_or]
      split
      · next same => rw [← same, known]
      · rfl

/-- The request for a device is a lookup of it. -/
theorem state_requestBinding_device (network : Network) (device : DeviceInstance) :
    (requestBinding (.device device) network).state = (resolveDevice device network).state := rfl

/-- A peer is bound once its address was asked for. -/
theorem isBound_requestBinding (network : Network) {device : DeviceInstance}
    {address : NetworkAddress} (peer : network.peers.get? device = some address) :
    (requestBinding (.device device) network).state.IsBound device := by
  rw [IsBound, state_requestBinding_device, binding?_resolveDevice, if_pos rfl, Option.isSome_or,
    peer, Option.isSome_some, Bool.or_true]

/-! ## Replacing recipients -/

/-- To release some devices erases their bindings, one after the other. -/
theorem run_releaseAll (devices : List DeviceInstance) (network : Network) :
    devices.forM release network =
      ⟨(), { network with bindings := devices.foldl SortedMap.erase network.bindings },
        devices.map .release⟩ := by
  induction devices generalizing network with
  | nil => rfl
  | cons first rest inductionHypothesis =>
      have released : release first network = ⟨(), network.forget first, [.release first]⟩ := rfl
      rw [Activity.run_forM_cons, released, inductionHypothesis]
      rfl

/-- A recipient that is a peer is bound. -/
def Reaches (recipient : Recipient) (network : Network) : Prop :=
  ∀ device address, recipient = .device device -> network.peers.get? device = some address ->
    network.IsBound device

/-- All peers that are asked for in a list are bound in the end. -/
theorem reaches_requestAll (recipients : List Recipient) (network : Network) :
    ∀ recipient ∈ recipients, Reaches recipient (recipients.forM requestBinding network).state := by
  refine Obeys.forM_each learning_requestBinding ?_ ?_ network
  · rintro _ network device address rfl peer
    rw [(learning_requestBinding (.device device) network).peers] at peer
    exact isBound_requestBinding network peer
  · rintro recipient network effects after reaches learns device address same peer
    rw [learns.peers] at peer
    exact learns.keeps device (reaches device address same peer)

/-- What following a change of a recipient list does. -/
structure Settles (update : RecipientUpdate) (network : Network) (effects : List Effect)
    (after : Network) : Prop where
  only : ∃ bindings, after = { network with bindings }
  keeps : ∀ device, device ∉ update.released -> network.IsBound device -> after.IsBound device
  sound : ∀ device address, after.binding? device = some address ->
    network.binding? device = some address ∨ network.peers.get? device = some address
  reaches : ∀ recipient ∈ update.bind, Reaches recipient after
  addressing : ∀ effect ∈ effects, effect.IsAddressing

/-- A change is followed by releasing first and asking afterwards, so a device that is asked for
is bound in the end even if it was released. -/
theorem settles (update : RecipientUpdate) (network : Network) :
    Settles update network (settle update network).effects (settle update network).state := by
  have requests : Obeys learning (update.bind.forM requestBinding) :=
    .forM fun recipient _ => learning_requestBinding recipient
  rw [settle, Activity.run_bind, run_releaseAll]
  have released := SortedMap.get?_eraseAll network.bindings update.released
  generalize update.released.foldl SortedMap.erase network.bindings = bindings at released ⊢
  have learns := requests { network with bindings }
  refine ⟨?_, ?_, ?_, ?_, ?_⟩
  · obtain ⟨final, same⟩ := learns.only
    exact ⟨final, same⟩
  · intro device listed bound
    refine learns.keeps device ?_
    rw [IsBound, binding?, released, if_neg listed]
    exact bound
  · intro device address known
    refine (learns.sound device address known).imp_left fun there => ?_
    rw [binding?, released] at there
    split at there
    · cases there
    · exact there
  · exact reaches_requestAll update.bind _
  · intro effect member
    rcases List.mem_append.mp member with release | request
    · obtain ⟨device, -, rfl⟩ := List.mem_map.mp release
      trivial
    · exact learns.addressing effect request

/-! ## Telling recipients -/

/-- A transmission is tried once, and kept if nothing is in its way. -/
theorem effects_send (transmission : Transmission) (network : Network) :
    (send transmission network).effects =
      [.send transmission (network.obstacle? transmission.address)] := by
  cases obstacle : network.obstacle? transmission.address <;> simp [send, obstacle]

/-- What is done to tell the recipients of a class: the addresses that are known for them
are looked up, and sent to. -/
inductive Notice (network : Network) (group : NotificationClass) : Effect -> Prop where
  | lookedUp {device : DeviceInstance} (references : group.references device = true) :
      Notice network group (.bind device (network.binding? device))
  | sent (transmission : Transmission) (failure : Option TransportError) :
      Notice network group (.send transmission failure)

/-- Telling the recipients of a class adds to what was sent, and does nothing else to the
network. -/
def telling (group : NotificationClass) : Law Network where
  holds network effects after :=
    (∃ sent, after = { network with sent }) ∧ ∀ effect ∈ effects, network.Notice group effect
  idle network := ⟨⟨network.sent, rfl⟩, fun _ member => nomatch member⟩
  chain := by
    rintro first _ _ earlier later ⟨⟨_, rfl⟩, before⟩ ⟨⟨sent, rfl⟩, after⟩
    refine ⟨⟨sent, rfl⟩, fun effect member => ?_⟩
    rcases List.mem_append.mp member with here | there
    · exact before effect here
    · cases after effect there with
      | lookedUp references => exact .lookedUp references
      | sent transmission failure => exact .sent transmission failure

section Telling

variable {group : NotificationClass}

/-- To try a transmission is part of telling, whether it gets through or not. -/
theorem telling_send (transmission : Transmission) :
    Obeys (telling group) (send transmission) := by
  intro network
  refine ⟨?_, fun effect member => ?_⟩
  · cases obstacle : network.obstacle? transmission.address with
    | none => exact ⟨network.sent ++ [transmission], by simp [send, obstacle]⟩
    | some failure => exact ⟨network.sent, by simp [send, obstacle]⟩
  · rw [effects_send] at member
    cases List.mem_singleton.mp member
    exact .sent transmission _

/-- Only devices that the class refers to are looked up for it. -/
theorem telling_resolve {destination : Destination} (listed : destination ∈ group.recipients) :
    Obeys (telling group) (Dispatch.resolve destination.recipient) := by
  cases toDevice : destination.recipient with
  | address address => exact .pure _
  | device device =>
      intro network
      refine ⟨⟨network.sent, rfl⟩, fun effect member => ?_⟩
      cases List.mem_singleton.mp member
      exact .lookedUp (List.any_eq_true.mpr ⟨destination, listed, by simp [toDevice]⟩)

/-- A delivery to a destination of the class tells it by a lookup and a transmission. -/
theorem telling_deliver (notification : EventNotification) {destination : Destination}
    (listed : destination ∈ group.recipients) :
    Obeys (telling group) (Dispatch.deliver notification destination) := by
  refine (telling_resolve listed).bind fun address => ?_
  cases address with
  | none => exact .pure _
  | some address => exact (telling_send _).bind fun _ => .pure _

/-- A record is reported to destinations of the class and to nobody else. -/
theorem telling_report (device : DeviceInstance) (record : EventRecord) :
    Obeys (telling group) (Dispatch.report device record group) := by
  rw [Dispatch.report]
  split
  · exact .pure _
  · refine (Obeys.mapM fun destination admitted => ?_).bind fun _ => .pure _
    exact telling_deliver _ (List.mem_filter.mp admitted).1

end Telling

/-! ## What is sent -/

/-- Sending nothing but what is allowed. -/
def sendingOnly (allowed : Transmission -> Prop) : Law Network where
  holds _ effects _ := ∀ transmission failure, .send transmission failure ∈ effects ->
    allowed transmission
  idle _ := fun _ _ member => nomatch member
  chain before after := fun transmission failure member =>
    (List.mem_append.mp member).elim (before transmission failure) (after transmission failure)

section SendingOnly

variable {allowed : Transmission -> Prop}

/-- An allowed transmission may be tried, whether it gets through or not. -/
theorem sendingOnly_send {transmission : Transmission} (fits : allowed transmission) :
    Obeys (sendingOnly allowed) (send transmission) := by
  intro network other failure member
  rw [effects_send] at member
  cases List.mem_singleton.mp member
  exact fits

/-- A delivery is allowed if what is made for its destination is, at every address. -/
theorem sendingOnly_deliver {notification : EventNotification} {destination : Destination}
    (fits : ∀ address, allowed (Dispatch.transmissionTo notification destination address)) :
    Obeys (sendingOnly allowed) (Dispatch.deliver notification destination) := by
  have resolves : Obeys (sendingOnly allowed) (Dispatch.resolve destination.recipient) := by
    cases destination.recipient with
    | address address => exact .pure _
    | device device =>
        intro network transmission failure member
        cases List.mem_singleton.mp member
  refine resolves.bind fun address => ?_
  cases address with
  | none => exact .pure _
  | some address => exact (sendingOnly_send (fits address)).bind fun _ => .pure _

/-- All that is sent for a record is made from its notification. -/
theorem sent_report {device : DeviceInstance} {record : EventRecord} {group : NotificationClass}
    {network : Network} {transmission : Transmission} {failure : Option TransportError}
    (sent : .send transmission failure ∈ (Dispatch.report device record group network).effects) :
    ∃ kind destination address, record.transition? = some kind ∧ transmission =
      Dispatch.transmissionTo (record.notification device group kind) destination address := by
  have reports : Obeys (sendingOnly fun transmission => ∃ kind destination address,
      record.transition? = some kind ∧ transmission =
        Dispatch.transmissionTo (record.notification device group kind) destination address)
      (Dispatch.report device record group) := by
    rw [Dispatch.report]
    split
    · exact .pure _
    · next kind entered =>
        refine (Obeys.mapM fun destination _ => ?_).bind fun _ => .pure _
        exact sendingOnly_deliver fun address => ⟨kind, destination, address, entered, rfl⟩
  exact reports network transmission failure sent

end SendingOnly

end Network

end Annunciator
