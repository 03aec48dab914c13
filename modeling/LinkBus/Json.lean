import LinkBus.Network.Devices

/-!
# JSON

The form in which what is known and what is shown are dumped: an object for a record, the name for
a value of an enumeration, null for an absent part, and text for an address.
-/

namespace LinkBus

/-- A JSON value. Objects keep the order of their fields. -/
inductive JsonValue
  | null
  | bool (b : Bool)
  | number (n : Int)
  | text (s : String)
  | list (items : List JsonValue)
  | object (fields : List (String × JsonValue))

namespace JsonValue

/-- A natural number. -/
def nat (n : Nat) : JsonValue := number n

/-- An optional part. -/
def option {α : Type} (f : α → JsonValue) : Option α → JsonValue
  | none => null
  | some a => f a

/-- A list of texts. -/
def texts (items : List String) : JsonValue := list (items.map text)

/-- An address. -/
def ip (a : Ip) : JsonValue := text a.text

end JsonValue

open JsonValue

/-- A link. -/
def Link.toJson (r : Link) : JsonValue :=
  object [("index", nat r.index.toNat), ("name", text r.name),
    ("link_layer_type", nat r.layerType.toNat), ("kind", option text r.kind),
    ("flags", nat r.flags.toNat), ("oper_state", text r.oper.name), ("carrier", bool r.carrier),
    ("mtu", nat r.mtu.toNat), ("hw_address", list (r.hwAddress.map fun b => nat b.toNat))]

/-- An address of a link. -/
def Address.toJson (r : Address) : JsonValue :=
  object [("index", nat r.index.toNat), ("family", text r.family.name), ("address", ip r.address),
    ("prefix_len", nat r.prefixLen.toNat), ("scope", nat r.scope.toNat),
    ("flags", nat r.flags.toNat), ("label", option text r.label)]

/-- A route. -/
def Route.toJson (r : Route) : JsonValue :=
  object [("family", text r.family.name), ("destination", option ip r.destination),
    ("prefix_len", nat r.prefixLen.toNat), ("gateway", option ip r.gateway),
    ("oif", option (fun i => nat i.toNat) r.oif), ("metric", nat r.metric.toNat),
    ("table", nat r.table.toNat)]

/-- The paths of a device. -/
def ObjectPaths.toJson (p : ObjectPaths) : JsonValue :=
  object [("suffix", nat p.number), ("device", text p.device), ("ip4", text p.ip4),
    ("ip6", text p.ip6), ("active", text p.active), ("settings", text p.settings)]

/-- Addresses with their prefix lengths. -/
def addressesToJson (addresses : List (Ip × UInt8)) : JsonValue :=
  list (addresses.map fun a => list [ip a.1, nat a.2.toNat])

/-- A configuration. -/
def IpConfig.toJson (c : IpConfig) : JsonValue :=
  object [("family", text c.family.name), ("addresses", addressesToJson c.addresses),
    ("gateway", option ip c.gateway)]

/-- A connection in use. -/
def ActiveConnection.toJson (a : ActiveConnection) : JsonValue :=
  object [("state", text a.state.name), ("id", text a.id), ("uuid", text a.uuid),
    ("connection_type", text a.connectionType), ("default4", bool a.default4),
    ("default6", bool a.default6)]

/-- The fields of a device. -/
def Device.jsonFields (v : Device) : List (String × JsonValue) :=
  [("index", nat v.index.toNat), ("paths", v.paths.toJson), ("interface", text v.interface),
    ("hw_address", text v.hwAddress), ("device_type", text v.deviceType.name),
    ("mtu", nat v.mtu.toNat), ("carrier", bool v.carrier), ("flags", nat v.flags.toNat),
    ("state", text v.state.name), ("ip4", option IpConfig.toJson v.ip4),
    ("ip6", option IpConfig.toJson v.ip6), ("active", option ActiveConnection.toJson v.active)]

/-- A device. -/
def Device.toJson (v : Device) : JsonValue := .object v.jsonFields

/-- The fields of an overview. -/
def Overview.jsonFields (m : Overview) : List (String × JsonValue) :=
  [("devices", texts m.devices), ("active_connections", texts m.activeConnections),
    ("connections", texts m.connections), ("primary_connection", text m.primaryConnection),
    ("primary_connection_type", text m.primaryConnectionType), ("state", text m.state.name),
    ("connectivity", text m.connectivity.name)]

/-- An overview. -/
def Overview.toJson (m : Overview) : JsonValue := .object m.jsonFields

/-- Everything that the bus would show of a network. -/
def Network.toJson (s : Network) : JsonValue :=
  .object [("manager", s.overview.toJson), ("devices", .list (s.devices.map Device.toJson))]

end LinkBus
