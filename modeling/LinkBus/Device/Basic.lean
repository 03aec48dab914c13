import LinkBus.Device.Kind
import LinkBus.Device.Paths
import LinkBus.Device.State
import LinkBus.Property

/-!
# Devices

A device is what the bus shows of a served link at one moment: its paths, its state, and the
configurations and the connection that it has while it is connected. Its properties are what is
announced when it changes.
-/

namespace LinkBus

/-- The states of a connection in use. -/
inductive ActiveState
  | activating
  | activated
  | deactivating
  | deactivated
  deriving DecidableEq, Repr

/-- The number that stands for the state of a connection on the bus. -/
def ActiveState.code : ActiveState → UInt32
  | activating => 1
  | activated => 2
  | deactivating => 3
  | deactivated => 4

/-- The name of the state of a connection. -/
def ActiveState.name : ActiveState → String
  | activating => "Activating"
  | activated => "Activated"
  | deactivating => "Deactivating"
  | deactivated => "Deactivated"

/-- How far one can get through the network. -/
inductive Connectivity
  | none
  | limited
  | full
  deriving DecidableEq, Repr

/-- The number that stands for a connectivity on the bus. -/
def Connectivity.code : Connectivity → UInt32
  | none => 1
  | limited => 3
  | full => 4

/-- The name of a connectivity. -/
def Connectivity.name : Connectivity → String
  | none => "None"
  | limited => "Limited"
  | full => "Full"

/-- The addresses and the gateway of a device in one family. -/
structure IpConfig where
  /-- The family of all its addresses. -/
  family : Family
  /-- The addresses with their prefix lengths. -/
  addresses : List (Ip × UInt8)
  /-- The next hop of the default route. -/
  gateway : Option Ip
  deriving DecidableEq, Repr

namespace IpConfig

/-- The text of the gateway, empty without one. -/
def gatewayText (c : IpConfig) : String := (c.gateway.map Ip.text).getD ""

/-- The announced properties of a configuration. -/
def properties (c : IpConfig) : Properties :=
  [("AddressData", .addresses c.addresses), ("Gateway", .text c.gatewayText)]

end IpConfig

/-- The connection that a device uses. -/
structure ActiveConnection where
  /-- Whether the connection is still being set up. -/
  state : ActiveState
  /-- The name that people see. -/
  id : String
  /-- The identifier that programs use. -/
  uuid : String
  /-- The type of the connection. -/
  connectionType : String
  /-- Whether the best IPv4 default route goes through the device. -/
  default4 : Bool
  /-- Whether the best IPv6 default route goes through the device. -/
  default6 : Bool
  deriving DecidableEq, Repr

/-- The announced properties of a connection in use. -/
def ActiveConnection.properties (a : ActiveConnection) : Properties :=
  [("Default", .flag a.default4), ("Default6", .flag a.default6), ("State", .number a.state.code)]

/-- Everything that the bus shows of a device. -/
structure Device where
  /-- The interface. -/
  index : UInt32
  /-- The paths of its objects. -/
  paths : ObjectPaths
  /-- The name of the interface. -/
  interface : String
  /-- The text of the hardware address. -/
  hwAddress : String
  /-- The kind of the device. -/
  deviceType : DeviceType
  /-- The largest packet in bytes. -/
  mtu : UInt32
  /-- Whether the link can carry traffic. -/
  carrier : Bool
  /-- The flag word of the link. -/
  flags : UInt32
  /-- The state that follows from the condition. -/
  state : DeviceState
  /-- What its state follows from. -/
  condition : DeviceCondition
  /-- The IPv4 configuration, while there is a connection. -/
  ip4 : Option IpConfig
  /-- The IPv6 configuration, while there is a connection. -/
  ip6 : Option IpConfig
  /-- The connection in use, if there is one. -/
  active : Option ActiveConnection
  deriving DecidableEq, Repr

namespace Device

/-- The path of the connection in use, or the path of no object. -/
def activePath (v : Device) : String := if v.active.isSome then v.paths.active else noObjectPath

/-- The path of the IPv4 configuration, or the path of no object. -/
def ip4Path (v : Device) : String := if v.ip4.isSome then v.paths.ip4 else noObjectPath

/-- The path of the IPv6 configuration, or the path of no object. -/
def ip6Path (v : Device) : String := if v.ip6.isSome then v.paths.ip6 else noObjectPath

/-- The further interface of the device. -/
def medium (v : Device) : Medium := v.deviceType.medium

/-- The first IPv4 address as the number that its bytes make in the byte order of the host, the
least significant first; zero without one. -/
def ip4Address (v : Device) : UInt32 :=
  let addresses := (v.ip4.map IpConfig.addresses).getD []
  match addresses.find? fun a => a.1.family == .v4 with
  | some a => UInt32.ofNat (littleEndian a.1.octets)
  | none => 0

/-- How far one gets with a configuration: everywhere through a gateway, to neighbours with an
address alone. -/
def connectivity (v : Device) : Option IpConfig → Connectivity
  | none => .none
  | some c =>
    if v.state ≠ .activated then .none
    else if c.gateway.isSome then .full
    else if c.addresses.isEmpty then .none
    else .limited

/-- How far one gets in IPv4. -/
def ip4Connectivity (v : Device) : Connectivity := v.connectivity v.ip4

/-- How far one gets in IPv6. -/
def ip6Connectivity (v : Device) : Connectivity := v.connectivity v.ip6

/-- The announced properties of the device. -/
def properties (v : Device) : Properties :=
  [("ActiveConnection", .path v.activePath),
   ("AvailableConnections", .paths [v.paths.settings]),
   ("DeviceType", .number v.deviceType.code),
   ("HwAddress", .text v.hwAddress),
   ("Interface", .text v.interface),
   ("InterfaceFlags", .number v.flags),
   ("Ip4Address", .number v.ip4Address),
   ("Ip4Config", .path v.ip4Path),
   ("Ip4Connectivity", .number v.ip4Connectivity.code),
   ("Ip6Config", .path v.ip6Path),
   ("Ip6Connectivity", .number v.ip6Connectivity.code),
   ("IpInterface", .text v.interface),
   ("Mtu", .number v.mtu),
   ("State", .number v.state.code)]

/-- The announced properties of the device's further interface. -/
def mediumProperties (v : Device) : Properties :=
  match v.medium with
  | .wired => [("Carrier", .flag v.carrier), ("HwAddress", .text v.hwAddress)]
  | _ => [("HwAddress", .text v.hwAddress)]

end Device

end LinkBus
