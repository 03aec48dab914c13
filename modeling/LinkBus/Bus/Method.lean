import LinkBus.Bus.Control
import LinkBus.Bus.Interface

/-!
# Methods

What the methods of every interface do. A method that an interface does not have is told apart from
one that was called with arguments of the wrong types.
-/

namespace LinkBus.Bus

/-- The body of a reply. -/
abbrev Body := List Value

/-- What a call leads to. -/
abbrev Response := Outcome Body

/-- The permissions that clients have. -/
def allowed : List String := ["network-control", "enable-disable-network"]

/-- The permissions that clients do not have. -/
def forbidden : List String :=
  ["checkpoint-rollback", "enable-disable-connectivity-check", "enable-disable-statistics",
    "enable-disable-wifi", "enable-disable-wwan", "reload", "settings.modify.global-dns",
    "settings.modify.hostname", "settings.modify.own", "settings.modify.system", "sleep-wake",
    "wifi.scan", "wifi.share.open", "wifi.share.protected"]

/-- All permissions, with the answers to them. -/
def permissions : Value :=
  let entry (answer : String) (name : String) : String × Value :=
    ("org.freedesktop.NetworkManager." ++ name, .text answer)
  .dict .text .text (allowed.map (entry "yes") ++ forbidden.map (entry "no"))

/-- A reply that always comes. -/
def answer (body : Body) : Response := pure body

/-- The reply to arguments whose types are not the expected ones. -/
def wrongArguments (expected : List ValueType) (arguments : Body) : Response :=
  let got := bodySignature arguments
  let wanted := signature expected
  .ofExcept (.error
    ⟨.signatureMismatch, s!"Signature mismatch: got `{got}`, expected `{wanted}`"⟩)

/-- The object that an activation is meant for: the device, or the connection if no device is
given. -/
def activationTarget (device connection : String) : String :=
  if device = noObjectPath then connection else device

/-- The methods of the manager. -/
def managerMethod? (c : Context) (control : LinkSwitch) (member : String) (arguments : Body) :
    Option Response :=
  match member with
  | "GetDevices" | "GetAllDevices" => some (answer [.paths c.network.overview.devices])
  | "GetDeviceByIpIface" => some <| match arguments with
    | [.text name] => do
      .ofFailable (acceptInterfaceName name)
      let found ← .ofFailable ((c.network.deviceNamed name).mapError LookupFault.toFailure)
      return [.path found.paths.device]
    | _ => wrongArguments [.text] arguments
  | "ActivateConnection" => some <| match arguments with
    | [.path connection, .path device, .path _] => do
      let target ← switchAt c control (activationTarget device connection) true
      return [.path target.paths.active]
    | _ => wrongArguments [.path, .path, .path] arguments
  | "AddAndActivateConnection" => some <| match arguments with
    | [.dict .text (.dict .text .variant) _, .path device, .path _] => do
      let target ← switchAt c control device true
      return [.path target.paths.settings, .path target.paths.active]
    | _ => wrongArguments [Value.sectionsType, .path, .path] arguments
  | "DeactivateConnection" => some <| match arguments with
    | [.path active] => do
      let target ← resolve c active
      switchLink c control target.index false
      return []
    | _ => wrongArguments [.path] arguments
  | "Enable" => some <| match arguments with
    | [.flag up] => do
      switchAll c control up
      return []
    | _ => wrongArguments [.flag] arguments
  | "GetPermissions" => some (answer [permissions])
  | "CheckConnectivity" => some (answer [.number c.network.overview.connectivity.code])
  | "state" => some (answer [.number c.network.overview.state.code])
  | _ => none

/-- The device whose connection has an identifier. -/
def deviceByUuid? (c : Context) (uuid : String) : Option Device :=
  c.network.devices.find? fun d => connectionIdentifier d.interface == uuid

/-- The methods of the settings object. -/
def settingsMethod? (c : Context) (member : String) (arguments : Body) : Option Response :=
  match member with
  | "ListConnections" => some (answer [.paths c.network.overview.connections])
  | "GetConnectionByUuid" => some <| match arguments with
    | [.text uuid] => match deviceByUuid? c uuid with
      | some device => answer [.path device.paths.settings]
      | none => .ofExcept (.error ⟨.invalidArgs, s!"No connection with UUID {uuid}"⟩)
    | _ => wrongArguments [.text] arguments
  | "ReloadConnections" => some (answer [.flag true])
  | _ => none

/-- The settings of the connection of a device. -/
def profile (device : Device) : Value :=
  let type := device.deviceType.connectionType
  .sections
    [("connection",
        [("id", .text device.interface), ("uuid", .text (connectionIdentifier device.interface)),
          ("type", .text type), ("interface-name", .text device.interface),
          ("autoconnect", .flag true)]),
      (type, [])]

/-- The methods of the settings of a connection. -/
def settingsConnectionMethod? (c : Context) (number : Nat) (member : String) (arguments : Body) :
    Option Response :=
  match member with
  | "GetSettings" =>
    some (.ofExcept ((c.device number).map fun device => [profile device]))
  | "GetSecrets" => some <| match arguments with
    | [.text _] => answer [.sections []]
    | _ => wrongArguments [.text] arguments
  | "Delete" =>
    some (.ofExcept (.error ⟨.notSupported, "synthesized connections cannot be deleted"⟩))
  | _ => none

/-- The methods of a device. -/
def deviceMethod? (c : Context) (control : LinkSwitch) (number : Nat) (member : String) :
    Option Response :=
  match member with
  | "Disconnect" => some do
    let device ← .ofExcept (c.device number)
    switchLink c control device.index false
    return []
  | "Delete" =>
    some (.ofExcept (.error
      ⟨.notSupported, "kernel interfaces cannot be deleted through this service"⟩))
  | _ => none

/-- The methods of the further interface of a wireless device. -/
def wirelessMethod? (member : String) : Option Response :=
  match member with
  | "GetAccessPoints" | "GetAllAccessPoints" => some (answer [.paths []])
  | _ => none

/-- What a method of an interface of the object with a number does, if there is such a method. -/
def Interface.method? (c : Context) (control : LinkSwitch) (number : Nat) (member : String)
    (arguments : Body) : Interface → Option Response
  | announced .manager => managerMethod? c control member arguments
  | announced .settings => settingsMethod? c member arguments
  | announced .device => deviceMethod? c control number member
  | announced (.specific .wireless) => wirelessMethod? member
  | settingsConnection => settingsConnectionMethod? c number member arguments
  | _ => none

end LinkBus.Bus
