import LinkBus.Ip

/-!
# Kernel events

What the kernel announces about links, addresses and routes, and what it reports when asked for
all of them. A report about a link may carry only some attributes and no name.
-/

namespace LinkBus

/-- The operational state of a link. -/
inductive OperState
  | unknown
  | notPresent
  | down
  | lowerLayerDown
  | testing
  | dormant
  | up
  deriving DecidableEq, Repr

/-- The state that a number on the wire stands for; numbers without a meaning are `unknown`. -/
def OperState.ofWire : Nat → OperState
  | 1 => notPresent
  | 2 => down
  | 3 => lowerLayerDown
  | 4 => testing
  | 5 => dormant
  | 6 => up
  | _ => unknown

/-- The name under which records show an operational state. -/
def OperState.name : OperState → String
  | unknown => "Unknown"
  | notPresent => "NotPresent"
  | down => "Down"
  | lowerLayerDown => "LowerLayerDown"
  | testing => "Testing"
  | dormant => "Dormant"
  | up => "Up"

/-- What is said about a link. Absent attributes were not part of the message. -/
structure LinkReport where
  /-- The interface. -/
  index : UInt32
  /-- The name of the interface. -/
  name : Option String := none
  /-- The hardware type. -/
  layerType : UInt16 := 0
  /-- The flag word. -/
  flags : UInt32 := 0
  /-- The flags that the report is about. -/
  changeMask : UInt32 := 0
  /-- The kind of a virtual link. -/
  kind : Option String := none
  /-- The operational state. -/
  oper : Option OperState := none
  /-- Whether there is a carrier. -/
  carrier : Option Bool := none
  /-- The largest packet in bytes. -/
  mtu : Option UInt32 := none
  /-- The bytes of the hardware address. -/
  hwAddress : Option (List UInt8) := none
  deriving DecidableEq, Repr

/-- An update without a name says something about a link that must be known already. -/
def LinkReport.lacksName (e : LinkReport) : Bool := e.name.isNone

/-- What is said about an address of a link. -/
structure AddressReport where
  /-- The interface. -/
  index : UInt32
  /-- The address. -/
  address : Ip
  /-- The length of the network part in bits. -/
  prefixLen : UInt8 := 0
  /-- How far the address is valid. -/
  scope : UInt8 := 0
  /-- The flag word. -/
  flags : UInt32 := 0
  /-- The name that the address was given. -/
  label : Option String := none
  deriving DecidableEq, Repr

/-- What is said about a route. -/
structure RouteReport where
  /-- The family of the route. -/
  family : Family
  /-- Where the route leads; absent for everywhere. -/
  destination : Option Ip := none
  /-- The length of the network part in bits. -/
  prefixLen : UInt8 := 0
  /-- The next hop. -/
  gateway : Option Ip := none
  /-- The interface that the route goes out of. -/
  oif : Option UInt32 := none
  /-- Routes of smaller metric are preferred. -/
  metric : UInt32 := 0
  /-- The routing table that holds the route. -/
  table : UInt32 := 254
  /-- Whether the route is one for ordinary traffic. -/
  unicast : Bool := true
  deriving DecidableEq, Repr

/-- One change of the kernel's network state. -/
inductive Event
  | newLink (link : LinkReport)
  | delLink (link : LinkReport)
  | newAddress (address : AddressReport)
  | delAddress (address : AddressReport)
  | newRoute (route : RouteReport)
  | delRoute (route : RouteReport)
  deriving DecidableEq, Repr

/-- The interface that an event is about. A route without an outgoing interface is about none. -/
def Event.index? : Event → Option UInt32
  | newLink l | delLink l => some l.index
  | newAddress a | delAddress a => some a.index
  | newRoute r | delRoute r => r.oif

end LinkBus
