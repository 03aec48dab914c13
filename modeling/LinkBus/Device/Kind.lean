import LinkBus.Text.Blank

/-!
# Kinds of devices

The kind of a device follows from the kind of its link or, for a plain link, from its hardware type
and name. It decides which further interface the device has on the bus and which type of connection
it takes.
-/

namespace LinkBus

/-- The kinds of devices. -/
inductive DeviceType
  | ethernet
  | wifi
  | infiniband
  | bond
  | vlan
  | bridge
  | generic
  | team
  | macvlan
  | vxlan
  | veth
  | dummy
  | vrf
  deriving DecidableEq, Repr

/-- The further interface that a device has. -/
inductive Medium
  | wired
  | wireless
  | generic
  deriving DecidableEq, Repr

/-- The name of a medium. -/
def Medium.name : Medium → String
  | wired => "Wired"
  | wireless => "Wireless"
  | generic => "Generic"

namespace DeviceType

/-- The number that stands for a kind on the bus. -/
def code : DeviceType → UInt32
  | ethernet => 1
  | wifi => 2
  | infiniband => 9
  | bond => 10
  | vlan => 11
  | bridge => 13
  | generic => 14
  | team => 15
  | macvlan => 18
  | vxlan => 19
  | veth => 20
  | dummy => 22
  | vrf => 31

/-- The name of a kind. -/
def name : DeviceType → String
  | ethernet => "Ethernet"
  | wifi => "Wifi"
  | infiniband => "Infiniband"
  | bond => "Bond"
  | vlan => "Vlan"
  | bridge => "Bridge"
  | generic => "Generic"
  | team => "Team"
  | macvlan => "Macvlan"
  | vxlan => "Vxlan"
  | veth => "Veth"
  | dummy => "Dummy"
  | vrf => "Vrf"

/-- The kind of a device whose link names a kind. -/
def ofLinkKind : String → DeviceType
  | "bridge" => bridge
  | "bond" => bond
  | "vlan" => vlan
  | "team" => team
  | "macvlan" => macvlan
  | "macvtap" => macvlan
  | "vxlan" => vxlan
  | "veth" => veth
  | "dummy" => dummy
  | "vrf" => vrf
  | _ => generic

/-- The kind of a device whose link names no kind. -/
def ofHardware (layerType : UInt16) (name : String) : DeviceType :=
  if layerType = 1 then if Text.startsWith name "wl" then wifi else ethernet
  else if layerType = 801 then wifi
  else if layerType = 32 then infiniband
  else generic

/-- The kind of a device. -/
def ofAttributes (kind : Option String) (layerType : UInt16) (name : String) : DeviceType :=
  match kind with
  | some kind => ofLinkKind kind
  | none => ofHardware layerType name

/-- The further interface of a kind. -/
def medium : DeviceType → Medium
  | ethernet | veth | macvlan => .wired
  | wifi => .wireless
  | _ => .generic

/-- The type of the connections of a kind. -/
def connectionType : DeviceType → String
  | ethernet | veth | macvlan => "802-3-ethernet"
  | wifi => "802-11-wireless"
  | infiniband => "infiniband"
  | bond => "bond"
  | vlan => "vlan"
  | bridge => "bridge"
  | team => "team"
  | vxlan => "vxlan"
  | dummy => "dummy"
  | vrf => "vrf"
  | generic => "generic"

end DeviceType

end LinkBus
