import LinkBus.Network.Devices

/-!
# Plans

What has to happen on the bus after a change: objects to register and to unregister, and signals to
send, in order. A memory of what was announced last is compared with what there is to show now. All
devices are compared, because one route can change the default flags of several.
-/

namespace LinkBus

/-- The kinds of registered objects. -/
inductive ObjectRole
  | device (medium : Medium)
  | settingsConnection
  | ip4Config
  | ip6Config
  | activeConnection
  deriving DecidableEq, Repr

/-- A registered object: its kind and the number that its path ends in. -/
structure BusObject where
  /-- The kind of the object. -/
  role : ObjectRole
  /-- The number of its device. -/
  number : Nat
  deriving DecidableEq, Repr

/-- The kind of path that an object has. -/
def ObjectRole.pathKind : ObjectRole → PathKind
  | device _ => .device
  | settingsConnection => .settings
  | ip4Config => .ip4
  | ip6Config => .ip6
  | activeConnection => .active

/-- The path of an object. -/
def BusObject.path (o : BusObject) : String := o.role.pathKind.path o.number

/-- The interfaces whose property changes are announced. -/
inductive PropertyInterface
  | manager
  | settings
  | device
  | specific (medium : Medium)
  | ip4Config
  | ip6Config
  | activeConnection
  deriving DecidableEq, Repr

/-- The name of an interface on the bus. -/
def PropertyInterface.name : PropertyInterface → String
  | manager => "org.freedesktop.NetworkManager"
  | settings => "org.freedesktop.NetworkManager.Settings"
  | device => "org.freedesktop.NetworkManager.Device"
  | specific medium => "org.freedesktop.NetworkManager.Device." ++ medium.name
  | ip4Config => "org.freedesktop.NetworkManager.IP4Config"
  | ip6Config => "org.freedesktop.NetworkManager.IP6Config"
  | activeConnection => "org.freedesktop.NetworkManager.Connection.Active"

/-- Why the state of a connection changed: for no particular reason, or because its device lost
it. -/
inductive ActiveReason
  | none
  | deviceDisconnected
  deriving DecidableEq, Repr

/-- The number that stands for a reason on the bus. -/
def ActiveReason.code : ActiveReason → UInt32
  | none => 1
  | deviceDisconnected => 3

/-- What is announced to all clients. -/
inductive Signal
  | deviceAdded (path : String)
  | deviceRemoved (path : String)
  | newConnection (path : String)
  | connectionRemoved (path : String)
  | deviceStateChanged (path : String) (new old : DeviceState) (reason : StateReason)
  | activeStateChanged (path : String) (state : ActiveState) (reason : ActiveReason)
  | managerStateChanged (state : ManagerState)
  | propertiesChanged (path : String) (interface : PropertyInterface) (changed : Properties)
  deriving DecidableEq, Repr

/-- One step of a plan. -/
inductive BusStep
  | register (object : BusObject)
  | unregister (object : BusObject)
  | emit (signal : Signal)
  deriving DecidableEq, Repr

/-- What was last announced about a device. -/
structure DeviceMemo where
  /-- The paths of its objects. -/
  paths : ObjectPaths
  /-- The medium of the device object. -/
  medium : Medium
  /-- The state of the device. -/
  state : DeviceState
  /-- The properties of the device. -/
  device : Properties
  /-- The properties of the device's further interface. -/
  specific : Properties
  /-- The properties of the IPv4 configuration, while there is one. -/
  ip4 : Option Properties
  /-- The properties of the IPv6 configuration, while there is one. -/
  ip6 : Option Properties
  /-- The state and the properties of the connection in use. -/
  active : Option (ActiveState × Properties)
  deriving DecidableEq, Repr

namespace DeviceMemo

/-- What is announced about a device. -/
def ofDevice (v : Device) : DeviceMemo where
  paths := v.paths
  medium := v.medium
  state := v.state
  device := v.properties
  specific := v.mediumProperties
  ip4 := v.ip4.map IpConfig.properties
  ip6 := v.ip6.map IpConfig.properties
  active := v.active.map fun a => (a.state, a.properties)

/-- The number of the device. -/
def number (a : DeviceMemo) : Nat := a.paths.number

/-- Whether the device has the objects of a connection. -/
def isConnected (a : DeviceMemo) : Bool := a.active.isSome

/-- The device object. -/
def deviceObject (a : DeviceMemo) : BusObject := ⟨.device a.medium, a.number⟩

/-- The object of the connection's settings. -/
def settingsObject (a : DeviceMemo) : BusObject := ⟨.settingsConnection, a.number⟩

/-- The objects that exist while there is a connection. -/
def connectionObjects (a : DeviceMemo) : List BusObject :=
  [⟨.ip4Config, a.number⟩, ⟨.ip6Config, a.number⟩, ⟨.activeConnection, a.number⟩]

/-- All objects of the device, in the order of their registration. -/
def objects (a : DeviceMemo) : List BusObject :=
  [a.deviceObject, a.settingsObject] ++ if a.isConnected then a.connectionObjects else []

/-- The steps for a device that appears. -/
def appear (new : DeviceMemo) : List BusStep :=
  new.objects.map .register ++
    [.emit (.newConnection new.paths.settings), .emit (.deviceAdded new.paths.device)] ++
    new.active.toList.map fun a => .emit (.activeStateChanged new.paths.active a.1 .none)

/-- The steps for a device that disappears. -/
def disappear (old : DeviceMemo) : List BusStep :=
  [.emit (.deviceRemoved old.paths.device), .emit (.connectionRemoved old.paths.settings)] ++
    (if old.isConnected then old.connectionObjects.map .unregister else []) ++
    [.unregister old.settingsObject, .unregister old.deviceObject]

/-- The signals for a device that passes through states, each from the one before it. -/
def stateSignals (path : String) (reason : StateReason) : DeviceState → List DeviceState →
    List BusStep
  | _, [] => []
  | old, new :: rest =>
    .emit (.deviceStateChanged path new old reason) :: stateSignals path reason new rest

/-- The signals about the state of the connection. A lost connection is reported as ended. -/
def activeSignals (old new : DeviceMemo) : List BusStep :=
  let signal (state : ActiveState) (reason : ActiveReason) : BusStep :=
    .emit (.activeStateChanged new.paths.active state reason)
  match old.active, new.active with
  | some _, none =>
    [signal .deactivating .deviceDisconnected, signal .deactivated .deviceDisconnected]
  | previous, some (state, _) =>
    if previous.map Prod.fst = some state then [] else [signal state .none]
  | none, none => []

/-- The signal about changed properties, if there are any. -/
def propertySignal (path : String) (interface : PropertyInterface) (old new : Properties) :
    List BusStep :=
  let changed := Properties.difference old new
  if changed.isEmpty then [] else [.emit (.propertiesChanged path interface changed)]

/-- The signal about changed properties of an object that existed before and still does. -/
def keptPropertySignal (path : String) (interface : PropertyInterface) :
    Option Properties → Option Properties → List BusStep
  | some old, some new => propertySignal path interface old new
  | _, _ => []

/-- The steps for a device that stays. Objects of a new connection are registered first, those of a
lost one are unregistered last. -/
def stay (old new : DeviceMemo) (condition : DeviceCondition) : List BusStep :=
  (if !old.isConnected && new.isConnected then new.connectionObjects.map .register else []) ++
    stateSignals new.paths.device (condition.reason new.state) old.state
      (old.state.passage new.state) ++
    activeSignals old new ++
    propertySignal new.paths.device .device old.device new.device ++
    propertySignal new.paths.device (.specific new.medium) old.specific new.specific ++
    keptPropertySignal new.paths.ip4 .ip4Config old.ip4 new.ip4 ++
    keptPropertySignal new.paths.ip6 .ip6Config old.ip6 new.ip6 ++
    keptPropertySignal new.paths.active .activeConnection (old.active.map Prod.snd)
      (new.active.map Prod.snd) ++
    (if old.isConnected && !new.isConnected then new.connectionObjects.map .unregister else [])

end DeviceMemo

/-- What was last announced about all devices together. -/
structure OverviewMemo where
  /-- The state of the network as a whole. -/
  state : ManagerState
  /-- The properties of the manager object. -/
  properties : Properties
  /-- The properties of the settings object. -/
  settings : Properties
  deriving DecidableEq, Repr

namespace OverviewMemo

/-- What is announced about all devices together. -/
def ofOverview (m : Overview) : OverviewMemo where
  state := m.state
  properties := m.properties
  settings := m.connectionsProperty

/-- The signals for an overview that changed. -/
def change (old new : OverviewMemo) : List BusStep :=
  DeviceMemo.propertySignal managerPath .manager old.properties new.properties ++
    (if old.state = new.state then [] else [.emit (.managerStateChanged new.state)]) ++
    DeviceMemo.propertySignal settingsPath .settings old.settings new.settings

end OverviewMemo

/-- What was last announced about everything. -/
structure BusMemo where
  /-- What was announced about each device. -/
  devices : Table UInt32 DeviceMemo := ∅
  /-- What was announced about all together; absent before anything was. -/
  overview : Option OverviewMemo := none
  deriving DecidableEq

namespace BusMemo

/-- The devices of a network by interface. -/
def deviceTable (s : Network) : Table UInt32 Device :=
  Table.ofList (s.devices.map fun d => (d.index, d))

/-- The memory after everything about a network was announced. -/
def remember (s : Network) : BusMemo where
  devices := Table.ofList (s.devices.map fun d => (d.index, DeviceMemo.ofDevice d))
  overview := some (.ofOverview s.overview)

/-- Starts over with a network: registers all its objects. -/
def introduce (s : Network) : BusMemo × List BusStep :=
  (remember s, s.devices.flatMap fun d => (DeviceMemo.ofDevice d).objects.map .register)

/-- The steps for one interface. A device that keeps its number and its medium is updated; otherwise
the old one disappears before the new one appears. -/
def deviceSteps (old : Option DeviceMemo) (new : Option Device) : List BusStep :=
  match old, new with
  | some old, some device =>
    let new := DeviceMemo.ofDevice device
    if old.number = new.number ∧ old.medium = new.medium then old.stay new device.condition
    else old.disappear ++ new.appear
  | some old, none => old.disappear
  | none, some device => (DeviceMemo.ofDevice device).appear
  | none, none => []

/-- The steps after a change, and the new memory. Without a change nothing is compared. -/
def advance (memo : BusMemo) (s : Network) (changes : Changes) : BusMemo × List BusStep :=
  if changes.isEmpty then (memo, [])
  else
    let current := deviceTable s
    let indices := (memo.devices.keys ++ current.keys).foldl IndexSet.add ∅
    let next := remember s
    let overviewSteps :=
      match memo.overview with
      | some old => old.change (.ofOverview s.overview)
      | none => []
    (next,
      (indices.keys.flatMap fun i => deviceSteps (memo.devices.find? i) (current.find? i)) ++
        overviewSteps)

end BusMemo

end LinkBus
