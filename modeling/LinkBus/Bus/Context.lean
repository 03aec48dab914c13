import LinkBus.Network.Devices
import LinkBus.Resolver

/-!
# What bus objects see

Bus objects have no memory. Whatever they are asked they look up in the network of the moment and
in the files of the host.
-/

namespace LinkBus.Bus

/-- The network, and the bytes of the host name file and of the resolver files. -/
structure Context where
  /-- The network of the moment. -/
  network : Network
  /-- The bytes of the host name file. -/
  hostname : Option (List UInt8) := none
  /-- The bytes of the resolver files, in the order in which they are tried. -/
  resolv : List (Option (List UInt8)) := []

namespace Context

/-- The device with a number. -/
def device (c : Context) (number : Nat) : Except BusError Device :=
  (c.network.deviceNumbered number).mapError fun fault => fault.toFailure.toBusError

/-- The configuration in one family of the device with a number. -/
def config (c : Context) (number : Nat) (family : Family) : Except BusError IpConfig := do
  let device ← c.device number
  match (match family with | .v4 => device.ip4 | .v6 => device.ip6) with
  | some config => return config
  | none => throw ⟨.unknownObject, s!"{device.interface} has no IP configuration"⟩

/-- The connection that the device with a number uses, with the device. -/
def active (c : Context) (number : Nat) : Except BusError (Device × ActiveConnection) := do
  let device ← c.device number
  match device.active with
  | some active => return (device, active)
  | none => throw ⟨.unknownObject, s!"{device.interface} is not active"⟩

/-- What the resolver files say. -/
def resolver (c : Context) : Resolver := Resolver.readFirst c.resolv

/-- The first connection in use that is not activated yet. -/
def activating? (c : Context) : Option Device :=
  c.network.devices.find? fun d => d.active.isSome && d.state != .activated

end Context

end LinkBus.Bus
