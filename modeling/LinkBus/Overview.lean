import LinkBus.Device.Basic

/-!
# The overview

What the bus shows of all devices together: which there are, which of them leads to the rest of the
world, and how far one gets. Its properties are announced when they change.
-/

namespace LinkBus

/-- The state of the network as a whole. -/
inductive ManagerState
  | disconnected
  | connecting
  | connectedSite
  | connectedGlobal
  deriving DecidableEq, Repr

/-- The number that stands for the state of the network on the bus. -/
def ManagerState.code : ManagerState → UInt32
  | disconnected => 20
  | connecting => 40
  | connectedSite => 60
  | connectedGlobal => 70

/-- The name of the state of the network. -/
def ManagerState.name : ManagerState → String
  | disconnected => "Disconnected"
  | connecting => "Connecting"
  | connectedSite => "ConnectedSite"
  | connectedGlobal => "ConnectedGlobal"

/-- Everything that the bus shows of all devices together. -/
structure Overview where
  /-- The paths of the devices. -/
  devices : List String
  /-- The paths of the connections in use. -/
  activeConnections : List String
  /-- The paths of all connections. -/
  connections : List String
  /-- The path of the connection with the best default route, or the path of no object. -/
  primaryConnection : String
  /-- The type of that connection; empty without one. -/
  primaryConnectionType : String
  /-- The state of the network as a whole. -/
  state : ManagerState
  /-- How far one gets through the network. -/
  connectivity : Connectivity
  deriving DecidableEq, Repr

namespace Overview

/-- The announced properties of the manager object. -/
def properties (m : Overview) : Properties :=
  [("ActiveConnections", .paths m.activeConnections),
   ("AllDevices", .paths m.devices),
   ("Connectivity", .number m.connectivity.code),
   ("Devices", .paths m.devices),
   ("PrimaryConnection", .path m.primaryConnection),
   ("PrimaryConnectionType", .text m.primaryConnectionType),
   ("State", .number m.state.code)]

/-- The announced properties of the settings object. -/
def connectionsProperty (m : Overview) : Properties := [("Connections", .paths m.connections)]

end Overview

end LinkBus
