import LinkBus.Event
import LinkBus.Wire.Attribute

/-!
# Route messages

A header of 12 bytes (family, prefix lengths, type of service, table, protocol, scope, type, flags)
and attributes. Addresses have the length that the family asks for. Messages of families other than
IPv4 and IPv6 have to be well-formed too but say nothing.
-/

namespace LinkBus.Wire

/-- What one attribute says about a route. -/
inductive RoutePart
  | destination (ip : Option Ip)
  | gateway (ip : Option Ip)
  | oif (index : UInt32)
  | metric (metric : UInt32)
  | table (table : UInt32)
  | other
  deriving DecidableEq, Repr

/-- The families of routes: those of internet addresses, that of labels, and all others. -/
inductive RouteFamily
  | internet (family : Family)
  | labels
  | unknown
  deriving DecidableEq, Repr

namespace RouteFamily

/-- The family that a number on the wire stands for. -/
def ofWire : Nat → RouteFamily
  | 2 => internet .v4
  | 10 => internet .v6
  | 28 => labels
  | _ => unknown

/-- The family of internet addresses, if it is one. -/
def internet? : RouteFamily → Option Family
  | internet family => some family
  | _ => none

/-- The value of an attribute as an address of a family. The outer `none` is a wrong length. A label
has four bytes and is no internet address; in an unknown family any value will do. -/
def ip? (family : RouteFamily) (a : Attribute) : Option (Option Ip) :=
  match family with
  | internet family => (a.ip?.filter fun ip => ip.family = family).map some
  | labels => (a.number? 4).map fun _ => none
  | unknown => some none

end RouteFamily

/-- What an attribute says about a route of a family and a type; `none` if its value is
malformed. -/
def RoutePart.ofAttribute? (family : RouteFamily) (type : Nat) (a : Attribute) :
    Option RoutePart :=
  match a.type with
  | 1 => (family.ip? a).map .destination
  | 2 | 7 => (family.ip? a).map fun _ => .other
  | 3 | 16 | 25 => a.word?.map fun _ => .other
  | 4 => a.word?.map .oif
  | 5 => (family.ip? a).map .gateway
  | 6 => a.word?.map .metric
  | 15 => a.word?.map .table
  | 20 | 26 => (a.number? 1).map fun _ => .other
  | 23 => (a.number? (if type = 5 then 8 else 4)).map fun _ => .other
  | _ => some .other

/-- The event that a header and the parts of its attributes describe. -/
def routeReport (family : Family) (payload : List UInt8) (parts : List RoutePart) : RouteReport :=
  { family
    destination := (lastSome (fun | .destination ip => some ip | _ => none) parts).join
    prefixLen := UInt8.ofNat (field payload 1 1)
    gateway := (lastSome (fun | .gateway ip => some ip | _ => none) parts).join
    oif := lastSome (fun | .oif i => some i | _ => none) parts
    metric := (lastSome (fun | .metric m => some m | _ => none) parts).getD 0
    table := (lastSome (fun | .table t => some t | _ => none) parts).getD
      (UInt32.ofNat (field payload 4 1))
    unicast := field payload 7 1 = 1 }

/-- Reads a route message. The outer `none` is a malformed message, the inner one a message of a
family that is neither IPv4 nor IPv6. -/
def readRoute? (payload : List UInt8) : Option (Option RouteReport) := do
  if payload.length < 12 then none
  let family := RouteFamily.ofWire (field payload 0 1)
  let attributes ← Attribute.readAll? (payload.drop 12)
  let parts ← attributes.mapM (RoutePart.ofAttribute? family (field payload 7 1))
  return family.internet?.map fun f => routeReport f payload parts

end LinkBus.Wire
