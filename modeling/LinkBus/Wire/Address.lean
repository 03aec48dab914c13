import LinkBus.Event
import LinkBus.Wire.Attribute

/-!
# Address messages

A header of 8 bytes (family, prefix length, flags, scope, index) and attributes. The address is the
local one or, where a message has none, the plain one, which on point-to-point links is the peer. A
message with neither is well-formed but says nothing.
-/

namespace LinkBus.Wire

/-- What one attribute says about an address. -/
inductive AddressPart
  | address (ip : Ip)
  | localAddress (ip : Ip)
  | label (text : String)
  | flags (flags : UInt32)
  | other
  deriving DecidableEq, Repr

/-- What an attribute says about an address; `none` if its value is malformed. -/
def AddressPart.ofAttribute? (a : Attribute) : Option AddressPart :=
  match a.type with
  | 1 => a.ip?.map .address
  | 2 => a.ip?.map .localAddress
  | 3 => a.text?.map .label
  | 4 => (a.number? 4).map fun _ => .other
  | 5 | 6 | 7 => (a.number? 16).map fun _ => .other
  | 8 => a.word?.map .flags
  | _ => some .other

/-- The event that a header and the parts of its attributes describe, if they hold an address. -/
def addressReport? (payload : List UInt8) (parts : List AddressPart) : Option AddressReport := do
  let own := lastSome (fun | .localAddress ip => some ip | _ => none) parts
  let peer := lastSome (fun | .address ip => some ip | _ => none) parts
  let ip ← own.or peer
  return { index := UInt32.ofNat (field payload 4 4)
           address := ip
           prefixLen := UInt8.ofNat (field payload 1 1)
           scope := UInt8.ofNat (field payload 3 1)
           flags := (lastSome (fun | .flags f => some f | _ => none) parts).getD
             (UInt32.ofNat (field payload 2 1))
           label := lastSome (fun | .label l => some l | _ => none) parts }

/-- Reads an address message. The outer `none` is a malformed message, the inner one a message that
holds no address. -/
def readAddress? (payload : List UInt8) : Option (Option AddressReport) := do
  if payload.length < 8 then none
  let attributes ← Attribute.readAll? (payload.drop 8)
  let parts ← attributes.mapM AddressPart.ofAttribute?
  return addressReport? payload parts

end LinkBus.Wire
