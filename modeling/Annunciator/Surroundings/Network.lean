import Annunciator.Activity
import Annunciator.NotificationClass

/-!
# The network

A network of peers that answer when they are asked where a device is. A station
only knows the address of a device once that device has been discovered, and it
keeps what it knows in a table of bindings.
-/

namespace Annunciator

/-- Something in the way of every transmission. -/
inductive Obstruction where
  | noRoute
  | noSlot
  | fault (reason : String)
  deriving DecidableEq, Repr

/-- The failure that a transmission to an address then runs into. -/
def Obstruction.failure (address : NetworkAddress) : Obstruction -> TransportError
  | noRoute => .unreachable address
  | noSlot => .busy
  | fault reason => .other reason

/-- A network as one station sees it. -/
structure Network where
  /-- The devices that answer discovery, and where they are. -/
  peers : SortedMap DeviceInstance NetworkAddress
  /-- The addresses that the station knows. -/
  bindings : SortedMap DeviceInstance NetworkAddress
  /-- The addresses that cannot be reached at present. -/
  offline : List NetworkAddress
  /-- Everything that was sent, in order. -/
  sent : List Transmission
  /-- What is in the way of every transmission, if anything. -/
  obstruction : Option Obstruction
  deriving DecidableEq

namespace Network

/-- A network with nobody on it. -/
def empty : Network := ⟨∅, ∅, [], [], none⟩

/-- Put a device on the network. -/
def addPeer (network : Network) (device : DeviceInstance) (address : NetworkAddress) :
    Network :=
  { network with peers := network.peers.insert device address }

/-- Take an address off the network, or put it back. -/
def setOffline (network : Network) (address : NetworkAddress) (value : Bool) : Network :=
  let others := network.offline.filter (· ≠ address)
  { network with offline := if value then address :: others else others }

/-- The known address of a device. -/
def binding? (network : Network) (device : DeviceInstance) : Option NetworkAddress :=
  network.bindings.get? device

/-- The devices that answer at an address. -/
def devicesAt (network : Network) (address : NetworkAddress) : List DeviceInstance :=
  (network.peers.entries.filter (·.2 = address)).map Prod.fst

/-- Enter what a peer answers to the question where it is. -/
def learn (network : Network) (device : DeviceInstance) : Network :=
  match network.peers.get? device with
  | some address => { network with bindings := network.bindings.insert device address }
  | none => network

/-- Enter every device that answers at an address. -/
def learnAt (network : Network) (address : NetworkAddress) : Network :=
  { network with
    bindings := (network.devicesAt address).foldl
      (fun bindings device => bindings.insert device address) network.bindings }

/-- Forget the address of a device. -/
def forget (network : Network) (device : DeviceInstance) : Network :=
  { network with bindings := network.bindings.erase device }

/-- What a transmission runs into, if anything. -/
def obstacle? (network : Network) (address : NetworkAddress) : Option TransportError :=
  match network.obstruction with
  | some obstruction => some (obstruction.failure address)
  | none => if network.offline.contains address then some (.unreachable address) else none

/-! ## Acts on the network -/

/-- Look up the address of a device. -/
def bind (device : DeviceInstance) : Activity Network (Option NetworkAddress) := do
  let found := (<- Activity.get).binding? device
  Activity.emit (.bind device found)
  pure found

/-- Ask everybody where a device is. -/
def discover (device : DeviceInstance) : Activity Network Unit := do
  Activity.emit (.discover device)
  Activity.modify (·.learn device)

/-- Ask the station at an address which device it is. -/
def discoverAt (address : NetworkAddress) : Activity Network Unit := do
  Activity.emit (.discoverAt address)
  Activity.modify (·.learnAt address)

/-- Give up the address of a device. -/
def release (device : DeviceInstance) : Activity Network Unit := do
  Activity.emit (.release device)
  Activity.modify (·.forget device)

/-- Hand a notification to the network. What cannot be sent is not kept. -/
def send (transmission : Transmission) : Activity Network (Option TransportError) := do
  let failure := (<- Activity.get).obstacle? transmission.address
  Activity.emit (.send transmission failure)
  if failure.isNone then
    Activity.modify fun network => { network with sent := network.sent ++ [transmission] }
  pure failure

/-- Look up the address of a device, and ask for it if it is not known. Answers
whether it was known. -/
def resolveDevice (device : DeviceInstance) : Activity Network Bool := do
  let found <- bind device
  if found.isNone then
    discover device
  pure found.isSome

/-- Request the binding of a recipient: look for a device, and ask a single
station which device it is. Nobody is asked through the broadcast. -/
def requestBinding : Recipient -> Activity Network Unit
  | .device device => do
      let _ <- resolveDevice device
  | .address address => if address.isBroadcast then pure () else discoverAt address

/-- Follow a change of a recipient list: first release, then bind, in list order. -/
def settle (update : RecipientUpdate) : Activity Network Unit := do
  update.released.forM release
  update.bind.forM requestBinding

/-- Look for every device that is not bound. Answers how many were not. -/
def sweep (devices : List DeviceInstance) : Activity Network Nat := do
  let known <- devices.mapM resolveDevice
  pure (known.count false)

end Network

end Annunciator
