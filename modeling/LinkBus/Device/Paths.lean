import LinkBus.Text.Blank
import LinkBus.Text.Digits

/-!
# Object paths

The five objects of a device have paths that end in the device's number. Reading a number back
accepts any decimal number below 2^64, also with leading zeros or a plus sign.
-/

namespace LinkBus

/-- The path of the manager object. -/
def managerPath : String := "/org/freedesktop/NetworkManager"

/-- The path of the settings object. -/
def settingsPath : String := "/org/freedesktop/NetworkManager/Settings"

/-- The path that stands for no object. -/
def noObjectPath : String := "/"

/-- The kinds of objects that a device has. -/
inductive PathKind
  | device
  | ip4
  | ip6
  | active
  | settings
  deriving DecidableEq, Repr

/-- What the paths of a kind begin with. -/
def PathKind.stem : PathKind → String
  | device => "/org/freedesktop/NetworkManager/Devices/"
  | ip4 => "/org/freedesktop/NetworkManager/IP4Config/"
  | ip6 => "/org/freedesktop/NetworkManager/IP6Config/"
  | active => "/org/freedesktop/NetworkManager/ActiveConnection/"
  | settings => "/org/freedesktop/NetworkManager/Settings/"

/-- The path of an object of a kind. -/
def PathKind.path (kind : PathKind) (number : Nat) : String :=
  kind.stem ++ String.ofList (Text.decimal number)

/-- The paths of the objects of a device. -/
structure ObjectPaths where
  /-- The number that all of them end in. -/
  number : Nat
  /-- The path of the device object. -/
  device : String
  /-- The path of the IPv4 configuration. -/
  ip4 : String
  /-- The path of the IPv6 configuration. -/
  ip6 : String
  /-- The path of the connection in use. -/
  active : String
  /-- The path of the connection's settings. -/
  settings : String
  deriving DecidableEq, Repr

/-- The paths that end in a number. -/
def ObjectPaths.ofNumber (number : Nat) : ObjectPaths where
  number := number
  device := PathKind.device.path number
  ip4 := PathKind.ip4.path number
  ip6 := PathKind.ip6.path number
  active := PathKind.active.path number
  settings := PathKind.settings.path number

/-- Numbers in paths are below this bound. -/
def numberBound : Nat := UInt64.size

/-- The kinds of objects in the order in which a path is tried. -/
def PathKind.all : List PathKind := [device, ip4, ip6, active, settings]

/-- The number that a path ends in, if it begins like the path of a device's object. -/
def numberOfPath? (path : String) : Option Nat :=
  (PathKind.all.findSome? fun kind => Text.stripStart? kind.stem.toList path.toList).bind
    (Text.readUnsigned? numberBound)

end LinkBus
