import Annunciator.Proofs.Station.Steps

/-!
# What a recipient list leaves in the binding table

Following a change of a recipient list is a sequence of releases, lookups and questions, in list
order. One question can bind several devices, also one that was released just before. Still the
order does not show in the end: `Network.rebinding?` says for each device what becomes of its
binding, and it looks at the list only for what is in it.
-/

namespace Annunciator

namespace Network

/-- A list has the address at which a device answers, so that the device is found by asking
there. Nobody is asked through the broadcast. -/
def IsAskedAt (network : Network) (asked : List Recipient) (device : DeviceInstance) : Prop :=
  ∃ address, .address address ∈ asked ∧ address.isBroadcast = false ∧
    network.peers.get? device = some address

instance (network : Network) (asked : List Recipient) (device : DeviceInstance) :
    Decidable (network.IsAskedAt asked device) :=
  decidable_of_iff
    ((network.peers.get? device).any fun address =>
      !address.isBroadcast && asked.contains (.address address)) <| by
    cases answers : network.peers.get? device with
    | none => simp [IsAskedAt, answers]
    | some address => simp [IsAskedAt, answers, and_comm]

/-- What a device is bound to when some recipients are asked for and some devices are released: to
the address at which it was asked; else, if it is asked for itself, to what was known, or to what
it answers; else to nothing if it is released, and to what was known if it is not. -/
def rebinding? (network : Network) (asked : List Recipient) (released : List DeviceInstance)
    (device : DeviceInstance) : Option NetworkAddress :=
  if network.IsAskedAt asked device then network.peers.get? device
  else if .device device ∈ asked then (network.binding? device).or (network.peers.get? device)
  else if device ∈ released then none
  else network.binding? device

/-- Whether a device is found by asking at its address is a matter of the peers alone. -/
theorem isAskedAt_of_peers {network other : Network} (samePeers : other.peers = network.peers)
    {asked : List Recipient} {device : DeviceInstance} :
    other.IsAskedAt asked device ↔ network.IsAskedAt asked device := by
  rw [IsAskedAt, IsAskedAt, samePeers]

/-- A list does not show its order in the bindings that it leaves. -/
theorem rebinding?_congr (network : Network) {asked others : List Recipient}
    {released freed : List DeviceInstance}
    (sameAsked : ∀ recipient, recipient ∈ asked ↔ recipient ∈ others)
    (sameReleased : ∀ device, device ∈ released ↔ device ∈ freed) (device : DeviceInstance) :
    network.rebinding? asked released device = network.rebinding? others freed device := by
  have sameQuestion : network.IsAskedAt asked device ↔ network.IsAskedAt others device := by
    simp only [IsAskedAt, sameAsked]
  simp only [rebinding?, sameQuestion, sameAsked, sameReleased]

/-! ## The requests -/

/-- Two lists after one another find whom one of them finds. -/
theorem isAskedAt_append {network : Network} {first later : List Recipient}
    {device : DeviceInstance} :
    network.IsAskedAt (first ++ later) device ↔
      network.IsAskedAt first device ∨ network.IsAskedAt later device := by
  simp only [IsAskedAt, List.mem_append, or_and_right, exists_or]

/-- Where nobody is released, two lists after one another are one list. -/
theorem rebinding?_append {network middle : Network} {first later : List Recipient}
    {device : DeviceInstance} (samePeers : middle.peers = network.peers)
    (bound : middle.binding? device = network.rebinding? first [] device) :
    middle.rebinding? later [] device = network.rebinding? (first ++ later) [] device := by
  simp only [rebinding?, List.not_mem_nil, if_false] at bound ⊢
  simp only [isAskedAt_of_peers samePeers, isAskedAt_append, List.mem_append, samePeers, bound]
  by_cases asked : network.IsAskedAt later device
  · simp only [asked, if_true, or_true]
  · by_cases earlier : network.IsAskedAt first device
    · simp only [asked, earlier, if_true, or_false, Option.or_self, ite_self]
    · by_cases listed : .device device ∈ first
      · simp [asked, earlier, listed, Option.or_assoc]
      · simp [asked, earlier, listed]

/-- A request is a list of one. -/
theorem binding?_requestBinding (network : Network) (recipient : Recipient)
    (device : DeviceInstance) :
    (requestBinding recipient network).state.binding? device =
      network.rebinding? [recipient] [] device := by
  cases recipient with
  | device wanted =>
      have unasked : ¬ network.IsAskedAt [.device wanted] device := by simp [IsAskedAt]
      rw [state_requestBinding_device, binding?_resolveDevice, rebinding?, if_neg unasked]
      by_cases here : wanted = device
      · simp [here]
      · simp [here, Ne.symm here]
  | address address =>
      by_cases everybody : address.isBroadcast = true
      · simp [requestBinding, everybody, rebinding?, IsAskedAt]
      · have final : (requestBinding (.address address) network).state =
            network.learnAt address := by
          simp [requestBinding, everybody, discoverAt]
        simp only [Bool.not_eq_true] at everybody
        rw [final]
        by_cases answers : network.peers.get? device = some address <;>
          simp [binding?_learnAt, mem_devicesAt_iff, rebinding?, IsAskedAt, everybody, answers]

/-- What a list of requests leaves, by induction on the list: the bindings after a request are
those that the rest of the list starts from. -/
theorem binding?_requestAll (asked : List Recipient) (network : Network)
    (device : DeviceInstance) :
    (asked.forM requestBinding network).state.binding? device =
      network.rebinding? asked [] device := by
  induction asked generalizing network with
  | nil => simp [rebinding?, IsAskedAt]
  | cons recipient rest inductionHypothesis =>
      have samePeers := (learning_requestBinding recipient network).peers
      rw [Activity.run_forM_cons, inductionHypothesis]
      exact rebinding?_append samePeers (binding?_requestBinding network recipient device)

/-- What following a change of a recipient list leaves, if nobody is released who is asked for. -/
theorem binding?_settle {update : RecipientUpdate}
    (apart : ∀ device ∈ update.released, .device device ∉ update.bind) (network : Network)
    (device : DeviceInstance) :
    (settle update network).state.binding? device =
      network.rebinding? update.bind update.released device := by
  rw [settle, Activity.run_bind, run_releaseAll, binding?_requestAll]
  generalize same : { network with
    bindings := update.released.foldl SortedMap.erase network.bindings } = freed
  have samePeers : freed.peers = network.peers := by rw [← same]
  have bound : freed.binding? device =
      if device ∈ update.released then none else network.binding? device := by
    rw [← same]
    exact SortedMap.get?_eraseAll network.bindings update.released device
  simp only [rebinding?, isAskedAt_of_peers samePeers, samePeers, bound, List.not_mem_nil, if_false]
  by_cases released : device ∈ update.released
  · simp only [apart device released, released, if_true, if_false]
  · simp only [released, if_false]

/-- Two networks that differ from one in nothing but bindings are the same if all devices are bound
alike in them. -/
theorem eq_of_bindings {network left right : Network}
    (onlyLeft : ∃ bindings, left = { network with bindings })
    (onlyRight : ∃ bindings, right = { network with bindings })
    (same : ∀ device, left.binding? device = right.binding? device) : left = right := by
  obtain ⟨bindings, rfl⟩ := onlyLeft
  obtain ⟨others, rfl⟩ := onlyRight
  exact congrArg (fun bindings => { network with bindings }) (SortedMap.ext_get? same)

end Network

namespace Station

section Replaced

variable {station : Station} {number : UInt32} {entries : List Destination}
  {update : RecipientUpdate} {registry : ClassRegistry}

/-- A list that is answered with an update was accepted by the registry. -/
theorem exists_replaced_of_answer
    (accepted : (setRecipients number entries station).answer = .ok update) :
    ∃ registry, station.registry.replaceRecipients number entries = .ok (update, registry) := by
  cases replaced : station.registry.replaceRecipients number entries with
  | error error =>
      rw [run_setRecipients_of_refused replaced] at accepted
      cases accepted
  | ok result =>
      obtain ⟨found, registry⟩ := result
      rw [run_setRecipients replaced] at accepted
      cases accepted
      exact ⟨registry, rfl⟩

/-- An accepted list is followed on the network. -/
theorem network_setRecipients
    (replaced : station.registry.replaceRecipients number entries = .ok (update, registry)) :
    (setRecipients number entries station).state.network =
      (Network.settle update station.network).state := by
  rw [run_setRecipients replaced]

/-- The bindings after an accepted list. -/
theorem binding?_setRecipients
    (replaced : station.registry.replaceRecipients number entries = .ok (update, registry))
    (device : DeviceInstance) :
    (setRecipients number entries station).state.network.binding? device =
      station.network.rebinding? (validRecipients entries) update.released device := by
  obtain ⟨group, known, -, -, bind, -⟩ :=
    ClassRegistry.replaceRecipients_eq_ok_iff.mp replaced
  rw [network_setRecipients replaced, Network.binding?_settle, bind]
  intro device released
  rw [bind]
  exact ((ClassRegistry.mem_released_iff replaced known).mp released).2.1

/-- Nothing but bindings changes on the network. -/
theorem only_bindings_setRecipients
    (replaced : station.registry.replaceRecipients number entries = .ok (update, registry)) :
    ∃ bindings, (setRecipients number entries station).state.network =
      { station.network with bindings } := by
  rw [network_setRecipients replaced]
  exact (Network.settles update station.network).only

/-- A list is accepted in every order, and always leaves the same network: the valid recipients are
the same, and so the same devices are released. -/
theorem network_setRecipients_of_perm
    (replaced : station.registry.replaceRecipients number entries = .ok (update, registry))
    {permuted : List Destination} (same : permuted.Perm entries) :
    (∃ other, (setRecipients number permuted station).answer = .ok other) ∧
      (setRecipients number permuted station).state.network =
        (setRecipients number entries station).state.network := by
  obtain ⟨group, known, fits, -⟩ := ClassRegistry.replaceRecipients_eq_ok_iff.mp replaced
  obtain ⟨other, replacedOther⟩ := ClassRegistry.exists_replaced known (same.length_eq ▸ fits)
  have sameValid : ∀ recipient,
      recipient ∈ validRecipients permuted ↔ recipient ∈ validRecipients entries :=
    fun recipient => ((same.map _).filter _).mem_iff
  have sameReleased : ∀ device, device ∈ other.released ↔ device ∈ update.released := by
    intro device
    rw [ClassRegistry.mem_released_iff replacedOther known,
      ClassRegistry.mem_released_iff replaced known, sameValid]
  refine ⟨⟨other, by rw [run_setRecipients replacedOther]⟩, ?_⟩
  refine Network.eq_of_bindings (only_bindings_setRecipients replacedOther)
    (only_bindings_setRecipients replaced) fun device => ?_
  rw [binding?_setRecipients replacedOther, binding?_setRecipients replaced]
  exact station.network.rebinding?_congr sameValid sameReleased device

end Replaced

/-- What becomes of the binding of each device when a class is given another recipient list: it
does not depend on the order of the list, and nothing else on the network changes. -/
theorem recipients_rebind {station : Station} {number : UInt32} {entries : List Destination}
    {update : RecipientUpdate}
    (accepted : (setRecipients number entries station).answer = .ok update) :
    (∀ device, (setRecipients number entries station).state.network.binding? device =
      station.network.rebinding? (validRecipients entries) update.released device) ∧
    (∃ bindings, (setRecipients number entries station).state.network =
      { station.network with bindings }) ∧
    ∀ permuted : List Destination, permuted.Perm entries ->
      (∃ other, (setRecipients number permuted station).answer = .ok other) ∧
      (setRecipients number permuted station).state.network =
        (setRecipients number entries station).state.network := by
  obtain ⟨registry, replaced⟩ := exists_replaced_of_answer accepted
  refine ⟨binding?_setRecipients replaced, only_bindings_setRecipients replaced, ?_⟩
  intro permuted same
  exact network_setRecipients_of_perm replaced same

/-- The switchboard on a network where two devices answer at one address. Device 5 is listed and
bound to another address, and so is device 7. -/
def crossbar : Station :=
  { bare ⟨9⟩ Timestamp.noon ⟨8, none⟩ with
    registry := ClassRegistry.switchboard
    network := { Network.empty with
      peers := .ofList [(⟨5⟩, ⟨3, [1]⟩), (⟨6⟩, ⟨3, [2]⟩), (⟨8⟩, ⟨3, [1]⟩)]
      bindings := .ofList [(⟨5⟩, ⟨3, [4]⟩), (⟨7⟩, ⟨3, [7]⟩)] } }

/-- Device 5 gives way to the address at which it answers: it is released, and bound again by the
question there. Device 8 is found by the same question, device 6 by its own one, and device 7
stays for the second class. All of this is so for the reversed list too. -/
theorem crossbar_rebinds :
    ∃ update, (setRecipients 1 [.always (.device ⟨6⟩), .always (.address ⟨3, [1]⟩)]
        crossbar).answer = .ok update ∧ update.released = [⟨5⟩] ∧
      [⟨5⟩, ⟨6⟩, ⟨7⟩, ⟨8⟩].map
          (setRecipients 1 [.always (.address ⟨3, [1]⟩), .always (.device ⟨6⟩)]
            crossbar).state.network.binding? =
        [some ⟨3, [1]⟩, some ⟨3, [2]⟩, some ⟨3, [7]⟩, some ⟨3, [1]⟩] := by
  have accepted : (setRecipients 1 [.always (.device ⟨6⟩), .always (.address ⟨3, [1]⟩)]
      crossbar).answer = .ok ⟨[.device ⟨6⟩, .address ⟨3, [1]⟩], [⟨5⟩]⟩ := rfl
  obtain ⟨rebinds, -, order⟩ := recipients_rebind accepted
  obtain ⟨-, same⟩ :=
    order [.always (.address ⟨3, [1]⟩), .always (.device ⟨6⟩)] (List.Perm.swap ..)
  refine ⟨_, accepted, rfl, ?_⟩
  simp only [same, List.map_cons, List.map_nil, rebinds]
  decide

end Station

end Annunciator
