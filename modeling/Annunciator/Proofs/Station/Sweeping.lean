import Annunciator.Proofs.Station.Rebinding
import Mathlib.Data.Set.Card

/-!
# Sweeps

A sweep goes over the recipients of all classes and asks for every one that is not bound. What it
learns goes into the table that it reads while it goes on; but it comes to every device once, so
what it does for one device does not depend on the others. After one sweep the next one finds
nothing new: it only counts those that nobody answered for.
-/

namespace Annunciator

namespace Network

/-- What a list of lookups leaves, by induction on the list: the bindings after a lookup are those
that the rest of the list starts from. -/
theorem binding?_resolveAll (devices : List DeviceInstance) (network : Network)
    (device : DeviceInstance) :
    (devices.mapM resolveDevice network).state.binding? device =
      if device ∈ devices then (network.binding? device).or (network.peers.get? device)
      else network.binding? device := by
  induction devices generalizing network with
  | nil => rfl
  | cons first rest inductionHypothesis =>
      have samePeers := (learning_resolveDevice first network).peers
      rw [List.mapM_cons, Activity.run_bind, Activity.run_bind]
      simp only [Activity.run_pure]
      rw [inductionHypothesis, binding?_resolveDevice, samePeers]
      by_cases here : first = device
      · subst here
        simp [Option.or_assoc]
      · simp [here, Ne.symm here]

/-- Different devices are looked up as if there were no other. -/
theorem answer_resolveAll {devices : List DeviceInstance} (distinct : devices.Nodup)
    (network : Network) :
    (devices.mapM resolveDevice network).answer =
      devices.map fun device => (network.binding? device).isSome := by
  induction devices generalizing network with
  | nil => rfl
  | cons first rest inductionHypothesis =>
      obtain ⟨fresh, others⟩ := List.nodup_cons.mp distinct
      rw [List.mapM_cons, Activity.run_bind, Activity.run_bind]
      simp only [Activity.run_pure]
      rw [inductionHypothesis others, answer_resolveDevice, List.map_cons]
      congr 1
      refine List.map_congr_left fun device later => ?_
      have differs : first ≠ device := by
        rintro rfl
        exact fresh later
      rw [binding?_resolveDevice, if_neg differs]

/-- A sweep counts the devices without a binding. -/
theorem answer_sweep {devices : List DeviceInstance} (distinct : devices.Nodup)
    (network : Network) :
    (sweep devices network).answer =
      (devices.filter fun device => (network.binding? device).isNone).length := by
  have unknown : ((· == false) ∘ fun device => (network.binding? device).isSome) =
      fun device => (network.binding? device).isNone := by
    funext device
    cases known : network.binding? device <;> simp [known]
  rw [← List.countP_eq_length_filter, ← unknown, ← List.countP_map, ← answer_resolveAll distinct]
  rfl

end Network

/-- A list without repetitions counts what is in it. -/
theorem encard_eq_length {Item : Type} {items : List Item} (distinct : items.Nodup)
    {holds : Item -> Prop} (listed : ∀ item, item ∈ items ↔ holds item) :
    {item | holds item}.encard = items.length := by
  classical
  have same : {item | holds item} = (items.toFinset : Set Item) := by
    ext item
    rw [Set.mem_ofPred_eq, ← listed, Finset.mem_coe, List.mem_toFinset]
  rw [same, Set.encard_coe_eq_coe_finsetCard, List.toFinset_card_of_nodup distinct]

/-- However many classes tell a device, a sweep looks it up once. -/
theorem ClassRegistry.nodup_deviceRecipients (registry : ClassRegistry) :
    registry.deviceRecipients.Nodup := by
  refine (SortedMap.distinct_ascending _).imp ?_
  rintro device _ below rfl
  exact KeyOrder.irreflexive device below

namespace Station

/-- Some class sends events to a device, but its address is not known. -/
def Misses (station : Station) (device : DeviceInstance) : Prop :=
  (∃ number group, station.registry.lookup? number = some group ∧ group.Tells device) ∧
    station.network.binding? device = none

section Sweep

variable (station : Station)

/-- A sweep answers how many devices are missing. -/
theorem answer_sweep :
    {device | station.Misses device}.encard = (sweep station).answer := by
  have answers : (sweep station).answer =
      (station.registry.deviceRecipients.filter fun device =>
        (station.network.binding? device).isNone).length :=
    Network.answer_sweep station.registry.nodup_deviceRecipients station.network
  rw [answers]
  refine encard_eq_length (station.registry.nodup_deviceRecipients.filter _) fun device => ?_
  rw [List.mem_filter, ClassRegistry.mem_deviceRecipients_iff, Option.isNone_iff_eq_none, Misses]

/-- A sweep changes nothing but bindings. -/
theorem only_bindings_sweep :
    ∃ bindings, (sweep station).state =
      { station with network := { station.network with bindings } } := by
  obtain ⟨bindings, same⟩ :=
    (Network.learning_sweep station.registry.deviceRecipients station.network).only
  refine ⟨bindings, ?_⟩
  rw [← same]
  rfl

/-- What is missing is bound to what it answers, and nothing else is bound anew. -/
theorem binding?_sweep (device : DeviceInstance) :
    (station.Misses device ->
      (sweep station).state.network.binding? device = station.network.peers.get? device) ∧
    (¬ station.Misses device ->
      (sweep station).state.network.binding? device = station.network.binding? device) := by
  have bound : (sweep station).state.network.binding? device = _ :=
    Network.binding?_resolveAll station.registry.deviceRecipients station.network device
  have recipient : device ∈ station.registry.deviceRecipients ↔ _ :=
    ClassRegistry.mem_deviceRecipients_iff
  rw [bound]
  constructor
  · rintro ⟨told, unknown⟩
    rw [if_pos (recipient.mpr told), unknown, Option.none_or]
  · intro found
    split
    · next listed =>
        obtain ⟨address, known⟩ := Option.ne_none_iff_exists'.mp fun unknown =>
          found ⟨recipient.mp listed, unknown⟩
        rw [known, Option.some_or]
    · rfl

/-- After a sweep only those are missing that are missing now and that nobody answers for. -/
theorem misses_sweep_iff (device : DeviceInstance) :
    (sweep station).state.Misses device ↔
      station.Misses device ∧ station.network.peers.get? device = none := by
  obtain ⟨finds, keeps⟩ := station.binding?_sweep device
  obtain ⟨bindings, same⟩ := station.only_bindings_sweep
  have sameRegistry : (sweep station).state.registry = station.registry := by rw [same]
  by_cases missing : station.Misses device
  · rw [Misses, sameRegistry, finds missing]
    exact and_congr_left' (iff_of_true missing.1 missing)
  · rw [Misses, sameRegistry, keeps missing]
    exact iff_of_false missing fun ⟨before, _⟩ => missing before

end Sweep

/-- A sweep asks for everybody who is missing, once, and answers how many there are. A missing
peer is bound to its address then, and all other bindings stay as they are; so the next sweep only
counts the missing devices that are no peers, and changes nothing. -/
theorem sweep_converges (station : Station) :
    {device | station.Misses device}.encard = (sweep station).answer ∧
    (∀ device,
      (station.Misses device ->
        (sweep station).state.network.binding? device = station.network.peers.get? device) ∧
      (¬ station.Misses device ->
        (sweep station).state.network.binding? device = station.network.binding? device)) ∧
    (∃ bindings, (sweep station).state =
      { station with network := { station.network with bindings } }) ∧
    {device | station.Misses device ∧ station.network.peers.get? device = none}.encard =
      (sweep (sweep station).state).answer ∧
    (sweep (sweep station).state).state = (sweep station).state := by
  refine ⟨station.answer_sweep, station.binding?_sweep, station.only_bindings_sweep, ?_, ?_⟩
  · rw [← answer_sweep]
    simp only [misses_sweep_iff]
  · obtain ⟨bindings, first⟩ := station.only_bindings_sweep
    obtain ⟨others, second⟩ := (sweep station).state.only_bindings_sweep
    -- A device that is still missing gave no answer to the first sweep, and gives none now.
    have settled : ∀ device, (sweep (sweep station).state).state.network.binding? device =
        (sweep station).state.network.binding? device := by
      intro device
      obtain ⟨finds, keeps⟩ := (sweep station).state.binding?_sweep device
      by_cases missing : (sweep station).state.Misses device
      · rw [finds missing, missing.2, first]
        exact ((station.misses_sweep_iff device).mp missing).2
      · exact keeps missing
    have sameNetwork := Network.eq_of_bindings ⟨others, congrArg Station.network second⟩
      ⟨_, rfl⟩ settled
    rw [second] at sameNetwork ⊢
    exact congrArg (fun network => { (sweep station).state with network }) sameNetwork

end Station

end Annunciator
