import LinkBus.Bus.Context
import LinkBus.Bus.Value
import LinkBus.Plan

/-!
# Interfaces and their properties

Every property of every interface with its getter. A getter may fail, because the device of its
object is gone or has no connection; the properties that are the same for all objects never fail.
-/

namespace LinkBus.Bus

/-- The interfaces: those whose property changes are announced, and that of the settings of a
connection, whose properties never change. -/
inductive Interface
  | announced (interface : PropertyInterface)
  | settingsConnection
  deriving DecidableEq, Repr

/-- The name of an interface. -/
def Interface.name : Interface → String
  | announced interface => interface.name
  | settingsConnection => "org.freedesktop.NetworkManager.Settings.Connection"

/-- A property: its name and what its getter gives. -/
abbrev Getter := String × Except BusError Value

/-- A property that never fails. -/
def always (name : String) (value : Value) : Getter := (name, .ok value)

/-- The version that clients are told. -/
def version : String := "1.46.0"

/-- The properties of the overview. -/
def managerGetters (c : Context) : List Getter :=
  let overview := c.network.overview
  [always "Devices" (.paths overview.devices),
    always "AllDevices" (.paths overview.devices),
    always "ActiveConnections" (.paths overview.activeConnections),
    always "PrimaryConnection" (.path overview.primaryConnection),
    always "PrimaryConnectionType" (.text overview.primaryConnectionType),
    always "ActivatingConnection"
      (.path ((c.activating?.map fun d => d.paths.active).getD noObjectPath)),
    always "State" (.number overview.state.code),
    always "Connectivity" (.number overview.connectivity.code),
    always "ConnectivityCheckAvailable" (.flag false),
    always "ConnectivityCheckEnabled" (.flag false),
    always "Version" (.text version),
    always "NetworkingEnabled" (.flag true),
    always "WirelessEnabled" (.flag true),
    always "WirelessHardwareEnabled" (.flag true),
    always "WwanEnabled" (.flag false),
    always "WwanHardwareEnabled" (.flag false),
    always "Metered" (.number 4),
    always "Startup" (.flag false),
    always "Capabilities" (.list .number [])]

/-- The properties of the settings object. -/
def settingsGetters (c : Context) : List Getter :=
  [always "Connections" (.paths c.network.overview.connections),
    always "Hostname" (.text (hostnameOf c.hostname)),
    always "CanModify" (.flag false)]

/-- The properties of the settings of a connection. -/
def settingsConnectionGetters : List Getter :=
  [always "Unsaved" (.flag false), always "Flags" (.number 0), always "Filename" (.text "")]

/-- The properties of a device. -/
def deviceGetters (c : Context) (number : Nat) : List Getter :=
  let device := c.device number
  let shown (name : String) (f : Device → Value) : Getter := (name, device.map f)
  [shown "Udi" fun d => .text ("/sys/class/net/" ++ d.interface),
    shown "Interface" fun d => .text d.interface,
    shown "IpInterface" fun d => .text d.interface,
    always "Driver" (.text "nmshim"),
    shown "HwAddress" fun d => .text d.hwAddress,
    shown "DeviceType" fun d => .number d.deviceType.code,
    shown "Mtu" fun d => .number d.mtu,
    shown "State" fun d => .number d.state.code,
    shown "StateReason" fun d =>
      .pair (.number d.state.code) (.number (d.condition.reason d.state).code),
    shown "InterfaceFlags" fun d => .number d.flags,
    shown "Ip4Address" fun d => .number d.ip4Address,
    shown "ActiveConnection" fun d => .path d.activePath,
    shown "Ip4Config" fun d => .path d.ip4Path,
    shown "Ip6Config" fun d => .path d.ip6Path,
    shown "AvailableConnections" fun d => .paths [d.paths.settings],
    shown "Ip4Connectivity" fun d => .number d.ip4Connectivity.code,
    shown "Ip6Connectivity" fun d => .number d.ip6Connectivity.code,
    always "Managed" (.flag true),
    always "Real" (.flag true),
    always "Autoconnect" (.flag true),
    always "Capabilities" (.number 0),
    always "Dhcp4Config" (.path noObjectPath),
    always "Dhcp6Config" (.path noObjectPath)]

/-- The properties of the further interface of a device. -/
def mediumGetters (c : Context) (number : Nat) (medium : Medium) : List Getter :=
  let device := c.device number
  let shown (name : String) (f : Device → Value) : Getter := (name, device.map f)
  let hwAddress := shown "HwAddress" fun d => .text d.hwAddress
  let permHwAddress := shown "PermHwAddress" fun d => .text d.hwAddress
  match medium with
  | .wired =>
    [hwAddress, permHwAddress, shown "Carrier" fun d => .flag d.carrier,
      always "Speed" (.number 0), always "S390Subchannels" (.texts [])]
  | .wireless =>
    [hwAddress, permHwAddress, always "Mode" (.number 2), always "Bitrate" (.number 0),
      always "AccessPoints" (.paths []), always "ActiveAccessPoint" (.path noObjectPath),
      always "WirelessCapabilities" (.number 0)]
  | .generic =>
    [hwAddress, shown "TypeDescription" fun d => .text d.deviceType.connectionType]

/-- The properties of both families' configurations. -/
def ipGetters (c : Context) (number : Nat) (family : Family) : List Getter :=
  let config := c.config number family
  [("AddressData", config.map fun i => .addressData i.addresses),
    ("Gateway", config.map fun i => .text i.gatewayText),
    always "Searches" (.texts c.resolver.searches)]

/-- The properties of an IPv4 configuration. A name server is told as the number that its bytes make
in the byte order of the host, the least significant first. -/
def ip4Getters (c : Context) (number : Nat) : List Getter :=
  let servers := c.resolver.ofFamily .v4
  ipGetters c number .v4 ++
    [always "NameserverData" (.list Value.propertiesType (servers.map fun ip =>
        .properties [("address", .text ip.text)])),
      always "Nameservers" (.list .number (servers.map fun ip =>
        .number (UInt32.ofNat (littleEndian ip.octets))))]

/-- The properties of an IPv6 configuration. A name server is told as its bytes. -/
def ip6Getters (c : Context) (number : Nat) : List Getter :=
  ipGetters c number .v6 ++
    [always "Nameservers" (.list (.list .byte) ((c.resolver.ofFamily .v6).map fun ip =>
      .list .byte (ip.octets.map .byte)))]

/-- The properties of a connection in use. -/
def activeGetters (c : Context) (number : Nat) : List Getter :=
  let active := c.active number
  let used (name : String) (f : Device → ActiveConnection → Value) : Getter :=
    (name, active.map fun a => f a.1 a.2)
  [used "State" fun _ a => .number a.state.code,
    used "Default" fun _ a => .flag a.default4,
    used "Default6" fun _ a => .flag a.default6,
    used "Type" fun _ a => .text a.connectionType,
    used "Id" fun _ a => .text a.id,
    used "Uuid" fun _ a => .text a.uuid,
    used "Devices" fun d _ => .paths [d.paths.device],
    used "Connection" fun d _ => .path d.paths.settings,
    always "SpecificObject" (.path noObjectPath),
    used "Ip4Config" fun d _ => .path d.ip4Path,
    used "Ip6Config" fun d _ => .path d.ip6Path,
    always "Dhcp4Config" (.path noObjectPath),
    always "Dhcp6Config" (.path noObjectPath),
    always "StateFlags" (.number 0),
    always "Vpn" (.flag false),
    always "Controller" (.path noObjectPath)]

namespace Interface

/-- The properties of an interface of the object with a number. -/
def getters (c : Context) (number : Nat) : Interface → List Getter
  | announced .manager => managerGetters c
  | announced .settings => settingsGetters c
  | announced .device => deviceGetters c number
  | announced (.specific medium) => mediumGetters c number medium
  | announced .ip4Config => ip4Getters c number
  | announced .ip6Config => ip6Getters c number
  | announced .activeConnection => activeGetters c number
  | settingsConnection => settingsConnectionGetters

/-- What the getter of a property gives, if there is such a property. -/
def get? (i : Interface) (c : Context) (number : Nat) (name : String) :
    Option (Except BusError Value) :=
  (i.getters c number).lookup name

/-- The properties whose getters do not fail, with their values. -/
def getAll (i : Interface) (c : Context) (number : Nat) : List (String × Value) :=
  (i.getters c number).filterMap fun p => p.2.toOption.map (p.1, ·)

end Interface

end LinkBus.Bus
