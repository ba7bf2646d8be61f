import Annunciator.Proofs.RecipientLists
import Annunciator.Proofs.Station.Startup

/-!
# Bindings of recipients

Several classes can send events to one device, and they share the binding of its address.
When a class is given another list it releases devices, but none that another class still
sends events to; and it asks for the devices that it lists now. So a recipient that is a
peer stays bound, whatever lists are given in whatever order.
-/

namespace Annunciator

/-! ## Replacing a list -/

namespace ClassRegistry

/-- A registry in which one class has another list. -/
structure Replaced (registry : ClassRegistry) (number : UInt32) (update : RecipientUpdate)
    (after : ClassRegistry) (group changed : NotificationClass) : Prop where
  known : registry.lookup? number = some group
  sameNumber : changed.number = group.number
  lookup : ∀ other, after.lookup? other =
    if number = other then some changed else registry.lookup? other
  asked : ∀ device, changed.references device = true -> .device device ∈ update.bind
  spared : ∀ device ∈ update.released, after.referencedBeside number device = false

/-- An accepted list changes one class, asks for all whom the class will tell, and releases
nobody whom another class tells. -/
theorem of_replaceRecipients {registry after : ClassRegistry} {number : UInt32}
    {entries : List Destination} {update : RecipientUpdate}
    (replaced : registry.replaceRecipients number entries = .ok (update, after)) :
    ∃ group changed, Replaced registry number update after group changed := by
  obtain ⟨group, known, -, rfl, bind, released⟩ := replaceRecipients_eq_ok_iff.mp replaced
  refine ⟨group, { group with slots := entries.map slotFor }, known, rfl,
    lookup?_relisted known entries, fun device references => ?_, fun device spared => ?_⟩
  · rw [bind]
    have tells := NotificationClass.references_iff_tells.mp references
    exact NotificationClass.lists_iff_of_listed.mp tells.lists
  · rw [released] at spared
    simpa using (List.mem_filter.mp spared).2

section Replaced

variable {registry after : ClassRegistry} {number : UInt32} {update : RecipientUpdate}
  {group changed : NotificationClass}
  (replaced : Replaced registry number update after group changed)
  (numbered : registry.IsNumbered)
include replaced numbered

/-- Every class is still under its own number. -/
theorem Replaced.isNumbered : after.IsNumbered := by
  intro other present known
  rw [replaced.lookup] at known
  split at known
  · next here =>
      cases known
      rw [replaced.sameNumber, ← here, numbered number group replaced.known]
  · exact numbered other present known

/-- A device that is released is no recipient of any class. -/
theorem Replaced.not_references {device : DeviceInstance} (released : device ∈ update.released)
    {other : UInt32} {present : NotificationClass} (differs : number ≠ other)
    (known : after.lookup? other = some present) : present.references device = false := by
  have listed : present ∈ after.classes.values :=
    List.mem_map_of_mem ((SortedMap.get?_eq_some_iff _ _ _).mp known)
  have apart : present.number ≠ number := by
    rw [replaced.isNumbered numbered other present known]
    exact differs.symm
  have spared := replaced.spared device released
  rw [referencedBeside, List.any_eq_false] at spared
  simpa [apart] using spared present listed

end Replaced

end ClassRegistry

namespace Station

/-! ## What is kept -/

/-- Every binding is that of a peer, and every recipient that is a peer is bound. -/
structure Reachable (peers : SortedMap DeviceInstance NetworkAddress) (station : Station) :
    Prop where
  numbered : station.registry.IsNumbered
  samePeers : station.network.peers = peers
  sound : ∀ device address, station.network.binding? device = some address ->
    peers.get? device = some address
  complete : ∀ number group, station.registry.lookup? number = some group ->
    ∀ device, group.references device = true ->
      ∀ address, peers.get? device = some address -> station.network.IsBound device

section Reachable

variable {peers : SortedMap DeviceInstance NetworkAddress} {station : Station}
  (reachable : station.Reachable peers)
include reachable

/-- A recipient that is a peer is bound to the address of the peer. -/
theorem Reachable.binding?_eq {number : UInt32} {group : NotificationClass}
    (known : station.registry.lookup? number = some group) {device : DeviceInstance}
    (references : group.references device = true) {address : NetworkAddress}
    (peer : peers.get? device = some address) :
    station.network.binding? device = some address := by
  obtain ⟨found, bound⟩ := Option.isSome_iff_exists.mp
    (reachable.complete number group known device references address peer)
  have same := reachable.sound device found bound
  rw [peer] at same
  cases same
  exact bound

/-- What leaves the classes, the peers and the bindings alone changes nothing. -/
theorem Reachable.congr {after : Station} (sameRegistry : after.registry = station.registry)
    (samePeers : after.network.peers = station.network.peers)
    (sameBindings : after.network.bindings = station.network.bindings) :
    after.Reachable peers := by
  have sameBinding : ∀ device, after.network.binding? device = station.network.binding? device :=
    fun device => by rw [Network.binding?, Network.binding?, sameBindings]
  refine ⟨?_, samePeers.trans reachable.samePeers, ?_, ?_⟩
  · rw [sameRegistry]
    exact reachable.numbered
  · intro device address known
    exact reachable.sound device address (sameBinding device ▸ known)
  · intro number group known device references address peer
    rw [sameRegistry] at known
    rw [Network.IsBound, sameBinding]
    exact reachable.complete number group known device references address peer

/-- Looking for addresses only adds bindings, and only those of peers. -/
theorem Reachable.learns {network : Network} {effects : List Effect}
    (learns : Network.Learns station.network effects network) :
    Reachable peers { station with network } := by
  refine ⟨reachable.numbered, learns.peers.trans reachable.samePeers, ?_, ?_⟩
  · intro device address known
    rcases learns.sound device address known with there | found
    · exact reachable.sound device address there
    · rw [← reachable.samePeers]
      exact found
  · intro number group known device references address peer
    exact learns.keeps device
      (reachable.complete number group known device references address peer)

/-- A new list releases no recipient of another class, and asks for its own. -/
theorem Reachable.listed {number : UInt32} {entries : List Destination}
    {update : RecipientUpdate} {registry : ClassRegistry}
    (accepted : station.registry.replaceRecipients number entries = .ok (update, registry)) :
    Reachable peers { station with
      registry, network := (Network.settle update station.network).state } := by
  obtain ⟨group, changed, replaced⟩ := ClassRegistry.of_replaceRecipients accepted
  have settles := Network.settles update station.network
  have samePeers : (Network.settle update station.network).state.peers = peers := by
    obtain ⟨bindings, same⟩ := settles.only
    rw [same]
    exact reachable.samePeers
  refine ⟨replaced.isNumbered reachable.numbered, samePeers, ?_, ?_⟩
  · intro device address known
    rcases settles.sound device address known with there | found
    · exact reachable.sound device address there
    · rw [← reachable.samePeers]
      exact found
  · intro other present known device references address peer
    by_cases here : number = other
    · subst here
      have isChanged := replaced.lookup number
      rw [if_pos rfl, known] at isChanged
      cases isChanged
      refine settles.reaches _ (replaced.asked device references) device address rfl ?_
      rw [samePeers]
      exact peer
    · have spared : device ∉ update.released := fun released => by
        rw [replaced.not_references reachable.numbered released here known] at references
        cases references
      have before := (replaced.lookup other).symm.trans known
      rw [if_neg here] at before
      exact settles.keeps device spared
        (reachable.complete other present before device references address peer)

/-- Every operation keeps the recipients reachable. -/
theorem Reachable.perform (operation : Operation) :
    Reachable peers (perform operation station).state := by
  have done := carried station operation
  generalize Station.perform operation station = outcome at done ⊢
  cases done with
  | refused | notAcked => exact reachable
  | trusted | acknowledged | timed => exact reachable.congr rfl rfl rfl
  | commanded _ _ _ records | served _ records =>
      obtain ⟨⟨output, settings, rfl⟩, -⟩ := records
      exact reachable.congr rfl rfl rfl
  | listed replaced records =>
      obtain ⟨⟨output, settings, rfl⟩, -⟩ := records
      exact (reachable.listed replaced).congr rfl rfl rfl
  | swept => exact reachable.learns (Network.learning_sweep _ station.network)
  | ticked spreads =>
      obtain ⟨⟨sent, bus, rfl⟩, -⟩ := spreads
      exact reachable.congr rfl rfl rfl

/-- No run makes a recipient unreachable. -/
theorem Reachable.after (operations : List Operation) :
    Reachable peers (station.after operations) :=
  history_invariant (fun _ (state : Station) => state.Reachable peers) reachable
    (fun _ _ operation kept => kept.perform operation) operations

/-- A tick looks up the addresses of recipients, and misses one only if it is no peer. -/
theorem Reachable.missing {device : DeviceInstance}
    (missed : .bind device none ∈ (Station.perform .tick station).effects) :
    peers.get? device = none := by
  obtain ⟨bus, after, effects, spreads, ticks⟩ := perform_tick station
  rw [ticks] at missed
  rcases List.mem_append.mp missed with change | there
  · obtain ⟨event, -, other⟩ := List.mem_map.mp change
    cases other
  · have notice := spreads.2 _ there
    generalize looked : Effect.bind device none = effect at notice
    cases notice with
    | published record => cases looked
    | told known notice =>
        cases notice with
        | sent => cases looked
        | lookedUp references =>
            injection looked with same unknown
            subst same
            rw [Option.eq_none_iff_forall_ne_some]
            intro address peer
            have bound := reachable.binding?_eq known references peer
            exact absurd (bound.symm.trans unknown.symm) (Option.some_ne_none address)

end Reachable

/-! ## Started stations -/

/-- The classes of a configuration are set up without recipients. -/
theorem of_lookup?_registry {configuration : Configuration} {number : UInt32}
    {group : NotificationClass} (known : configuration.registry.lookup? number = some group) :
    group.number = number ∧ group.slots = [] := by
  refine List.foldlRecOn (motive := fun registry : ClassRegistry =>
    ∀ number group, registry.lookup? number = some group ->
      group.number = number ∧ group.slots = []) configuration.classes _
    (fun _ _ known => by cases known) ?_ number group known
  intro registry new entry _ number group known
  rw [ClassRegistry.lookup?, ClassRegistry.insert, SortedMap.get?_insert] at known
  split at known
  · next here =>
      cases known
      exact ⟨here, rfl⟩
  · exact new number group known

/-- Nobody was asked for an address when the peers are put on the network. -/
theorem bindings_network (configuration : Configuration) :
    configuration.network.bindings = ∅ :=
  List.foldlRecOn (motive := fun network : Network => network.bindings = ∅)
    configuration.peers _ rfl fun _ unbound _ _ => unbound

/-- The vacant station has no recipients yet, and knows no addresses. -/
theorem reachable_vacant (configuration : Configuration) (clock : Timestamp) (bus : EventBus) :
    (vacant configuration clock bus).Reachable configuration.network.peers := by
  refine ⟨fun number group known => (of_lookup?_registry known).1, rfl, ?_, ?_⟩
  · intro device address known
    change configuration.network.bindings.get? device = some address at known
    rw [bindings_network] at known
    cases known
  · intro number group known device references
    obtain ⟨destination, listed, -⟩ := NotificationClass.references_iff.mp references
    rw [NotificationClass.recipients, (of_lookup?_registry known).2] at listed
    cases listed

/-- The shared bindings are never pulled from under a recipient. In every station that was
started, whatever it was asked to do, every binding leads to a peer, and every recipient
that is a peer is bound to its address. So a tick misses the address of a device only if
that device is no peer. -/
theorem recipients_stay_bound {configuration : Configuration} {clock : Timestamp}
    {station : Station} {effects : List Effect}
    (started : start configuration clock = .ok (station, effects))
    (operations : List Operation) :
    (∀ device address,
      (run operations station).state.network.binding? device = some address ->
        configuration.network.peers.get? device = some address) ∧
    (∀ number group, (run operations station).state.registry.lookup? number = some group ->
      ∀ destination ∈ group.recipients, ∀ device, destination.recipient = .device device ->
        ∀ address, configuration.network.peers.get? device = some address ->
          (run operations station).state.network.binding? device = some address) ∧
    ∀ device, .bind device none ∈ (perform .tick (run operations station).state).effects ->
      configuration.network.peers.get? device = none := by
  obtain ⟨bus, tables, -, rfl⟩ := of_start started
  have furnished : Reachable configuration.network.peers
      { after (vacant configuration clock bus) (listings configuration) with tables } :=
    ((reachable_vacant configuration clock bus).after (listings configuration)).congr rfl rfl rfl
  have reachable := (furnished.after (firstCommands configuration)).after operations
  rw [run_eq]
  refine ⟨reachable.sound, fun number group known destination listed device toDevice address peer =>
    ?_, fun device missed => reachable.missing missed⟩
  exact reachable.binding?_eq known
    (NotificationClass.references_iff.mpr ⟨destination, listed, toDevice⟩) peer

/-- Two classes tell one console, which is on the network, and the second one tells another
device too, which is not. -/
def controlRoom : Configuration :=
  { Configuration.standard with
    classes :=
      [⟨1, .replicate 1, .none, [.always (.device ⟨10⟩)]⟩,
        ⟨2, .replicate 1, .none, [.always (.device ⟨10⟩), .always (.device ⟨12⟩)]⟩]
    peers := [⟨⟨10⟩, ⟨0, [10]⟩⟩] }

/-- The first class gives the console up, and the second one still reaches it. -/
theorem controlRoom_stays_bound :
    ∃ station effects, start controlRoom Timestamp.noon = .ok (station, effects) ∧
      (run [.setRecipients 1 []] station).state.network.binding? ⟨10⟩ = some ⟨0, [10]⟩ := by
  refine ⟨_, _, rfl, ?_⟩
  have started : start controlRoom Timestamp.noon = .ok _ := rfl
  obtain ⟨-, bound, -⟩ := recipients_stay_bound started [.setRecipients 1 []]
  exact bound 2 _ rfl (.always (.device ⟨10⟩)) (List.mem_cons_self ..) ⟨10⟩ rfl ⟨0, [10]⟩ rfl

end Station

end Annunciator
