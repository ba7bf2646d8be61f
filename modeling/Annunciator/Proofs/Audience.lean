import Annunciator.Dispatch
import Annunciator.Proofs.Activities

/-!
# Who is told of a record

A dispatch walks the slots of a class up to the first empty one. A destination in front of it is
told of a record if it wants to hear of it, if it has an address, and if nothing is in the way of
that address; and it is passed over otherwise. What had been sent before plays no part in either,
so one destination is told, or passed over, whatever becomes of the others.
-/

namespace Annunciator

/-! ## Addresses -/

namespace Network

variable {network : Network} {recipient : Recipient} {address : NetworkAddress}

/-- Where a recipient is at present: at its own address, or at the one known for its device. -/
inductive Locates (network : Network) : Recipient -> NetworkAddress -> Prop where
  | named (address : NetworkAddress) : Locates network (.address address) address
  | known {device : DeviceInstance} {address : NetworkAddress}
      (bound : network.binding? device = some address) :
      Locates network (.device device) address

/-- Nothing is in the way of what is sent to an address. -/
def IsOpen (network : Network) (address : NetworkAddress) : Prop :=
  network.obstruction = none ∧ address ∉ network.offline

/-- No obstacle is found exactly where nothing is in the way. -/
theorem obstacle?_eq_none_iff : network.obstacle? address = none ↔ network.IsOpen address := by
  rw [obstacle?, IsOpen]
  cases network.obstruction with
  | none => simp
  | some obstruction => simp

/-- Where a recipient is at present, if that is known. -/
def whereabouts? (network : Network) : Recipient -> Option NetworkAddress
  | .device device => network.binding? device
  | .address address => some address

/-- The address that is found for a recipient is the one where it is. -/
theorem whereabouts?_eq_some_iff :
    network.whereabouts? recipient = some address ↔ network.Locates recipient address := by
  constructor
  · intro found
    cases recipient with
    | device device => exact .known found
    | address named =>
        cases found
        exact .named address
  · rintro (_ | bound)
    · rfl
    · exact bound

end Network

namespace Dispatch

/-- Resolving a recipient answers where it is, and leaves the network alone. -/
theorem run_resolve (recipient : Recipient) (network : Network) :
    (resolve recipient network).answer = network.whereabouts? recipient ∧
      (resolve recipient network).state = network := by
  cases recipient <;> exact ⟨rfl, rfl⟩

/-! ## Single destinations -/

/-- The transmission by which a notification gets to a destination, if it does. -/
def through? (network : Network) (notification : EventNotification) (destination : Destination) :
    Option Transmission :=
  ((network.whereabouts? destination.recipient).filter fun address =>
    (network.obstacle? address).isNone).map (transmissionTo notification destination)

section Through

variable {network : Network} {notification : EventNotification} {destination : Destination}

/-- A notification gets through to a destination that has an address with nothing in the way of
it. -/
theorem through?_eq_some_iff {transmission : Transmission} :
    through? network notification destination = some transmission ↔
      ∃ address, network.Locates destination.recipient address ∧ network.IsOpen address ∧
        transmissionTo notification destination address = transmission := by
  simp only [through?, Option.map_eq_some_iff, Option.filter_eq_some_iff, Option.isNone_iff_eq_none,
    Network.obstacle?_eq_none_iff, Network.whereabouts?_eq_some_iff, and_assoc]

/-- What had been sent does not matter to what gets through. -/
theorem through?_sending (sent : List Transmission) :
    through? { network with sent } notification destination =
      through? network notification destination := rfl

/-- One destination is sent what gets through to it, and nothing else is done to the network. -/
theorem run_deliver :
    (deliver notification destination network).answer =
        (through? network notification destination).isSome ∧
      (deliver notification destination network).state =
        { network with
          sent := network.sent ++ (through? network notification destination).toList } := by
  obtain ⟨answer, state⟩ := run_resolve destination.recipient network
  rw [deliver, Activity.run_bind, answer, state, through?]
  cases network.whereabouts? destination.recipient with
  | none => simp
  | some address =>
      have sentTo : (transmissionTo notification destination address).address = address := rfl
      cases obstacle : network.obstacle? address <;>
        simp [Network.send, sentTo, obstacle, Option.filter]

end Through

/-! ## All destinations -/

/-- The destinations of a list are sent what gets through to them, in their order. -/
theorem run_deliverAll (notification : EventNotification) (destinations : List Destination)
    (network : Network) :
    (destinations.mapM (deliver notification) network).answer =
        destinations.map (fun destination =>
          (through? network notification destination).isSome) ∧
      (destinations.mapM (deliver notification) network).state =
        { network with
          sent := network.sent ++ destinations.filterMap (through? network notification) } := by
  induction destinations generalizing network with
  | nil => exact ⟨rfl, by simp⟩
  | cons first rest inductionHypothesis =>
      obtain ⟨answer, state⟩ := @run_deliver network notification first
      obtain ⟨answers, final⟩ := inductionHypothesis
        { network with
          sent := network.sent ++ (through? network notification first).toList }
      -- The rest meets the same network, but for what was sent.
      simp only [through?_sending] at answers final
      rw [List.mapM_cons, Activity.run_bind, Activity.run_bind, answer, state]
      constructor
      · simp [answers]
      · simp only [Activity.run_pure, final, List.filterMap_cons, List.append_assoc]
        cases through? network notification first <;> rfl

/-! ## Whole lists -/

/-- A destination is told of a record of a kind, at an address. -/
structure IsToldAt (network : Network) (record : EventRecord) (kind : Transition)
    (destination : Destination) (address : NetworkAddress) : Prop where
  admits : destination.admits kind record.timestamp = true
  located : network.Locates destination.recipient address
  isOpen : network.IsOpen address

/-- A destination is not told of a record, wherever it is. -/
def IsPassedOver (network : Network) (record : EventRecord) (kind : Transition)
    (destination : Destination) : Prop :=
  ∀ address, ¬IsToldAt network record kind destination address

/-- A transmission takes a record of a kind to a destination at an address. -/
structure Carries (device : DeviceInstance) (record : EventRecord) (group : NotificationClass)
    (kind : Transition) (destination : Destination) (address : NetworkAddress)
    (transmission : Transmission) : Prop where
  goesTo : transmission.address = address
  confirmed : transmission.confirmed = true ↔
    destination.confirmed = true ∧ address.network ≠ broadcastNetwork
  processId : transmission.notification.processId = destination.processId
  notificationClass : transmission.notification.notificationClass = group.number
  priority : transmission.notification.priority = group.priority.get kind
  initiatingDevice : transmission.notification.initiatingDevice = device
  object : transmission.notification.object = record.object
  timestamp : transmission.notification.timestamp = record.timestamp
  origin : transmission.notification.origin = record.origin
  target : transmission.notification.target = record.target

/-- What the slots of a class are sent of a record: one transmission for each destination that is
told, in the order of the slots, up to the first empty one. -/
inductive Spreads (network : Network) (device : DeviceInstance) (record : EventRecord)
    (group : NotificationClass) (kind : Transition) :
    List (Option Destination) -> List Transmission -> Prop where
  | done : Spreads network device record group kind [] []
  | ended (behind : List (Option Destination)) :
      Spreads network device record group kind (none :: behind) []
  | told {destination : Destination} {address : NetworkAddress} {transmission : Transmission}
      {rest : List (Option Destination)} {later : List Transmission}
      (told : IsToldAt network record kind destination address)
      (carries : Carries device record group kind destination address transmission)
      (onward : Spreads network device record group kind rest later) :
      Spreads network device record group kind (some destination :: rest) (transmission :: later)
  | passedOver {destination : Destination} {rest : List (Option Destination)}
      {later : List Transmission} (untold : IsPassedOver network record kind destination)
      (onward : Spreads network device record group kind rest later) :
      Spreads network device record group kind (some destination :: rest) later

section Whole

variable {network : Network} {device : DeviceInstance} {record : EventRecord}
  {group : NotificationClass} {kind : Transition} {destination : Destination}

/-- The transmission by which a destination is told of a record, if it is. -/
def telling? (network : Network) (device : DeviceInstance) (record : EventRecord)
    (group : NotificationClass) (kind : Transition) (destination : Destination) :
    Option Transmission :=
  if destination.admits kind record.timestamp = true then
    through? network (record.notification device group kind) destination
  else none

/-- A destination gets a transmission exactly if it is told at some address, and then the one
that is made for this address. -/
theorem telling?_eq_some_iff {transmission : Transmission} :
    telling? network device record group kind destination = some transmission ↔
      ∃ address, IsToldAt network record kind destination address ∧
        transmissionTo (record.notification device group kind) destination address =
          transmission := by
  rw [telling?]
  split
  · next admits =>
      rw [through?_eq_some_iff]
      constructor
      · rintro ⟨address, located, isOpen, same⟩
        exact ⟨address, ⟨admits, located, isOpen⟩, same⟩
      · rintro ⟨address, told, same⟩
        exact ⟨address, told.located, told.isOpen, same⟩
  · next rejects =>
      refine iff_of_false (fun found => nomatch found) ?_
      rintro ⟨address, told, -⟩
      exact rejects told.admits

/-- A destination gets nothing exactly if it is passed over. -/
theorem telling?_eq_none_iff :
    telling? network device record group kind destination = none ↔
      IsPassedOver network record kind destination := by
  rw [Option.eq_none_iff_forall_ne_some, IsPassedOver]
  simp only [ne_eq, telling?_eq_some_iff]
  constructor
  · exact fun nothing address told => nothing _ ⟨address, told, rfl⟩
  · rintro untold _ ⟨address, told, -⟩
    exact untold address told

/-- What goes to a destination takes the record to it. -/
theorem carries_transmissionTo (device : DeviceInstance) (record : EventRecord)
    (group : NotificationClass) (kind : Transition) (destination : Destination)
    (address : NetworkAddress) :
    Carries device record group kind destination address
      (transmissionTo (record.notification device group kind) destination address) where
  goesTo := rfl
  confirmed := by simp [transmissionTo, NetworkAddress.isBroadcast]
  processId := rfl
  notificationClass := rfl
  priority := rfl
  initiatingDevice := rfl
  object := rfl
  timestamp := rfl
  origin := rfl
  target := rfl

/-- The destinations in front of the first empty slot that are told, in their order. -/
theorem spreads_reachable (network : Network) (device : DeviceInstance) (record : EventRecord)
    (group : NotificationClass) (kind : Transition) (slots : List (Option Destination)) :
    Spreads network device record group kind slots
      ((reachable slots).filterMap (telling? network device record group kind)) := by
  induction slots with
  | nil => exact .done
  | cons slot rest inductionHypothesis =>
      cases slot with
      | none => exact .ended rest
      | some destination =>
          rw [reachable]
          cases telling : telling? network device record group kind destination with
          | none =>
              rw [List.filterMap_cons_none telling]
              exact .passedOver (telling?_eq_none_iff.mp telling) inductionHypothesis
          | some transmission =>
              rw [List.filterMap_cons_some telling]
              obtain ⟨address, told, rfl⟩ := telling?_eq_some_iff.mp telling
              exact .told told (carries_transmissionTo ..) inductionHypothesis

/-- A destination from which nothing comes can be taken out of its slot. -/
theorem filterMap_reachable_without {Sent : Type} {choose : Destination -> Option Sent}
    (nothing : choose destination = none) (front back : List (Option Destination)) :
    (reachable (front ++ some destination :: back)).filterMap choose =
      (reachable (front ++ back)).filterMap choose := by
  induction front with
  | nil => exact List.filterMap_cons_none nothing
  | cons slot rest inductionHypothesis =>
      cases slot with
      | none => rfl
      | some first =>
          simp only [List.cons_append, reachable, List.filterMap_cons, inductionHypothesis]

/-- Counting what got through counts the transmissions. -/
theorem count_isSome_eq_length {Sent : Type} (choose : Destination -> Option Sent)
    (destinations : List Destination) :
    (destinations.map fun destination => (choose destination).isSome).count true =
      (destinations.filterMap choose).length := by
  rw [List.count_eq_countP, List.countP_map, List.length_filterMap_eq_countP]
  exact List.countP_congr fun destination _ => by simp

/-- A record of a kind is sent to the destinations that are told, and each of them counts. -/
theorem run_report (entered : record.target = kind.target) :
    (report device record group network).answer =
        ((reachable group.slots).filterMap (telling? network device record group kind)).length ∧
      (report device record group network).state =
        { network with
          sent := network.sent ++
            (reachable group.slots).filterMap (telling? network device record group kind) } := by
  have known : record.transition? = some kind := Transition.entering?_eq_some_iff.mpr entered
  obtain ⟨answers, state⟩ := run_deliverAll (record.notification device group kind)
    (group.recipients.filter (·.admits kind record.timestamp)) network
  simp only [report, known, Activity.run_bind, Activity.run_pure, answers, state,
    count_isSome_eq_length, List.filterMap_filter]
  exact ⟨rfl, rfl⟩

/-- A record without a kind is not sent to anybody. -/
theorem run_report_of_unnamed (unnamed : ∀ kind : Transition, record.target ≠ kind.target) :
    report device record group network = ⟨0, network, []⟩ := by
  have unknown : record.transition? = none := by
    rw [Option.eq_none_iff_forall_ne_some]
    exact fun kind known => unnamed kind (Transition.entering?_eq_some_iff.mp known)
  rw [report, unknown]
  rfl

end Whole

/-- What a dispatch adds to what was sent, which its answer counts, goes to the destinations that
are told, one transmission for each of them in list order; it does nothing else to the network.
A record whose state no kind of transition ends in is not sent at all. A destination that is not
told, for whatever reason, could as well have been left out of the list. -/
theorem report_spreads (device : DeviceInstance) (record : EventRecord)
    (group : NotificationClass) (network : Network) :
    ∃ added,
      (report device record group network).state =
          { network with sent := network.sent ++ added } ∧
        (report device record group network).answer = added.length ∧
        ((∀ kind : Transition, record.target ≠ kind.target) -> added = []) ∧
        ∀ kind : Transition, record.target = kind.target ->
          Spreads network device record group kind group.slots added ∧
          ∀ front destination back, group.slots = front ++ some destination :: back ->
            IsPassedOver network record kind destination ->
            (report device record { group with slots := front ++ back } network).answer =
                added.length ∧
              (report device record { group with slots := front ++ back } network).state =
                { network with sent := network.sent ++ added } := by
  by_cases named : ∃ kind : Transition, record.target = kind.target
  · obtain ⟨kind, entered⟩ := named
    obtain ⟨answer, state⟩ := @run_report network device record group kind entered
    refine ⟨_, state, answer, fun unnamed => absurd entered (unnamed kind), ?_⟩
    intro other enteredToo
    obtain rfl : kind = other := Transition.target_injective (entered.symm.trans enteredToo)
    refine ⟨spreads_reachable .., fun front destination back listed untold => ?_⟩
    rw [listed, filterMap_reachable_without (telling?_eq_none_iff.mpr untold)]
    exact @run_report network device record { group with slots := front ++ back } kind entered
  · have unnamed : ∀ kind : Transition, record.target ≠ kind.target := not_exists.mp named
    rw [run_report_of_unnamed unnamed]
    refine ⟨[], by simp, rfl, fun _ => rfl, ?_⟩
    exact fun kind entered => absurd entered (unnamed kind)

/-- Device 5 is bound to the broadcast, so what it is sent does not ask to be confirmed; one
address is told twice, since it is listed twice; and the last one is behind an empty slot. -/
example :
    let record : EventRecord := ⟨⟨.binaryValue, 1⟩, 1, Timestamp.noon, .normal, .offnormal,
      .alarm, .changeOfState, "", .binary .active, ⟨true, false, false, false⟩⟩
    let network : Network := { Network.empty with
      bindings := .ofList [(⟨5⟩, ⟨broadcastNetwork, []⟩)], offline := [⟨3, [2]⟩] }
    let slots : List (Option Destination) :=
      [some { Destination.always (.device ⟨5⟩) with confirmed := true },
        some (.always (.address ⟨3, [1]⟩)), some (.always (.address ⟨3, [2]⟩)),
        some (.always (.device ⟨6⟩)),
        some { Destination.always (.address ⟨3, [3]⟩) with transitions := .none },
        some { Destination.always (.address ⟨3, [1]⟩) with confirmed := true }, none,
        some (.always (.address ⟨3, [4]⟩))]
    (report ⟨9⟩ record { NotificationClass.create 1 with slots } network).state.sent.map
        (fun transmission => (transmission.address, transmission.confirmed)) =
      [(⟨broadcastNetwork, []⟩, false), (⟨3, [1]⟩, false), (⟨3, [1]⟩, true)] := by
  decide

end Dispatch

end Annunciator
