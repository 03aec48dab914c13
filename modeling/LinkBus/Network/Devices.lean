import LinkBus.Failure
import LinkBus.Network
import LinkBus.Overview
import LinkBus.Uuid

/-!
# The devices of a network

The devices that the bus shows are the served links with a number in use. What it shows of each, the
overview of all, and the look-ups by path, number and name are computed from the network whenever
they are asked for.
-/

namespace LinkBus

/-- Why there is no device. -/
inductive LookupFault
  | notServed (index : UInt32)
  | noLink (index : UInt32)
  | noPath (index : UInt32)
  | path (path : String)
  | number (number : Nat)
  | interface (name : String)
  deriving DecidableEq, Repr

/-- The failure that a fruitless look-up is reported as. -/
def LookupFault.toFailure : LookupFault → Failure
  | notServed i => .inconsistent s!"interface {i} is not managed"
  | noLink i => .inconsistent s!"interface {i} has no link record"
  | noPath i => .inconsistent s!"interface {i} has no object path"
  | path p => .notFound s!"no device at {p}"
  | number n => .notFound s!"no device with suffix {n}"
  | interface name => .notFound s!"no device for interface {name}"

/-- How far one gets in a state of the network. -/
def ManagerState.connectivity : ManagerState → Connectivity
  | connectedGlobal => .full
  | connectedSite => .limited
  | _ => .none

namespace Network

/-- Whether the bus shows an interface. -/
def shows (s : Network) (index : UInt32) : Bool :=
  s.inventory.serves index && (s.inventory.link? index).isSome && (s.numbering.number? index).isSome

/-- The interfaces that the bus shows, in the order of their numbers. -/
def shown (s : Network) : List UInt32 :=
  let numbered := (s.inventory.served.keys.filter s.shows).filterMap fun index =>
    (s.numbering.number? index).map fun number => ((number, index), ())
  (Table.ofList numbered).keys.map Prod.snd

/-- Whether an interface is shown and activated. -/
def isActivated (s : Network) (index : UInt32) : Bool :=
  s.shows index &&
    (s.inventory.link? index).any fun link =>
      (DeviceCondition.ofRecords link (s.inventory.addressesOf index)).state == .activated

/-- Whether a route goes out of an activated device. -/
def routesActivated (s : Network) (r : Route) : Bool := r.oif.any s.isActivated

/-- The interface of the best default route of a family among the activated devices: the smallest
metric, and of several the smallest index. -/
def defaultInterface? (s : Network) (family : Family) : Option UInt32 :=
  (Inventory.minByRank
    (fun r => [r.metric.toNat, (r.oif.getD 0).toNat])
    ((s.inventory.defaultRoutes family).filter s.routesActivated)).bind Route.oif

/-- The configuration that a device shows in one family: the addresses that are good for something
outside this host, also while they are being checked, and the gateway of the default route. -/
def ipConfig (s : Network) (index : UInt32) (family : Family) : IpConfig where
  family := family
  addresses := ((s.inventory.addressesOf index).filter fun a =>
    a.family == family && !a.isUnusable).map fun a => (a.address, a.prefixLen)
  gateway := (s.inventory.routeVia? index family).bind Route.gateway

/-- The connection in use of a device in a state. -/
def activeConnection (s : Network) (link : Link) (index : UInt32) (state : DeviceState)
    (type : DeviceType) : ActiveConnection where
  state := if state = .activated then .activated else .activating
  id := link.name
  uuid := connectionIdentifier link.name
  connectionType := type.connectionType
  default4 := s.defaultInterface? .v4 == some index
  default6 := s.defaultInterface? .v6 == some index

/-- What is shown of a link under a number. -/
def deviceOf (s : Network) (index : UInt32) (link : Link) (number : Nat) : Device :=
  let condition := DeviceCondition.ofRecords link (s.inventory.addressesOf index)
  let state := condition.state
  let deviceType := DeviceType.ofAttributes link.kind link.layerType link.name
  let ifConnected {α : Type} (a : α) : Option α := if state.isConnected then some a else none
  { index
    paths := .ofNumber number
    interface := link.name
    hwAddress := link.mac
    deviceType
    mtu := link.mtu
    carrier := link.carries
    flags := link.flags
    state
    condition
    ip4 := ifConnected (s.ipConfig index .v4)
    ip6 := ifConnected (s.ipConfig index .v6)
    active := ifConnected (s.activeConnection link index state deviceType) }

/-- The device of an interface. -/
def device (s : Network) (index : UInt32) : Except LookupFault Device :=
  if !s.inventory.serves index then .error (.notServed index)
  else
    match s.inventory.link? index with
    | none => .error (.noLink index)
    | some link =>
      match s.numbering.number? index with
      | none => .error (.noPath index)
      | some number => .ok (s.deviceOf index link number)

/-- All devices, in the order of their numbers. -/
def devices (s : Network) : List Device :=
  s.shown.filterMap fun index => (s.device index).toOption

/-- The device with a number. -/
def deviceNumbered (s : Network) (number : Nat) : Except LookupFault Device :=
  match (s.numbering.holder? number).filter s.shows with
  | some index => s.device index
  | none => .error (.number number)

/-- The device that an object path belongs to. -/
def deviceAt (s : Network) (path : String) : Except LookupFault Device :=
  match numberOfPath? path with
  | some number => s.deviceNumbered number
  | none => .error (.path path)

/-- The device of an interface name. -/
def deviceNamed (s : Network) (name : String) : Except LookupFault Device :=
  match ((s.inventory.linkNamed? name).map Link.index).filter s.shows with
  | some index => s.device index
  | none => .error (.interface name)

/-- Whether a device is activated and has a default route of its own. -/
def isGlobal (s : Network) (d : Device) : Bool :=
  d.state == .activated &&
    ((s.inventory.routeVia? d.index .v4).isSome || (s.inventory.routeVia? d.index .v6).isSome)

/-- The state of the network as a whole. -/
def managerState (s : Network) (devices : List Device) : ManagerState :=
  if devices.any s.isGlobal then .connectedGlobal
  else if devices.any fun d => d.state == .activated then .connectedSite
  else if devices.any fun d => d.state == .ipConfig then .connecting
  else .disconnected

/-- The device of the best default route, of IPv4 if there is one. -/
def primary? (s : Network) (devices : List Device) : Option Device :=
  ((s.defaultInterface? .v4).or (s.defaultInterface? .v6)).bind fun index =>
    devices.find? fun d => d.index == index

/-- What is shown of all devices together. -/
def overview (s : Network) : Overview :=
  let devices := s.devices
  let primary := s.primary? devices
  let state := s.managerState devices
  { devices := devices.map fun d => d.paths.device
    activeConnections := (devices.filter fun d => d.active.isSome).map fun d => d.paths.active
    connections := devices.map fun d => d.paths.settings
    primaryConnection := (primary.map fun d => d.paths.active).getD noObjectPath
    primaryConnectionType := (primary.map fun d => d.deviceType.connectionType).getD ""
    state
    connectivity := state.connectivity }

end Network

end LinkBus
