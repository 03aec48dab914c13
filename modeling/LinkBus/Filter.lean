import LinkBus.Record
import LinkBus.Text.Blank

/-!
# Which interfaces are served

An interface is served unless it is a loopback, a tunnel or ignored by name. The class depends on
the hardware type, the loopback flag, the kind and the name, and on nothing else.
-/

namespace LinkBus

/-- The class of an interface. -/
inductive LinkClass
  | served
  | loopback
  | tunnel
  | ignored
  deriving DecidableEq, Repr

/-- The name of a class. -/
def LinkClass.name : LinkClass → String
  | served => "Managed"
  | loopback => "Loopback"
  | tunnel => "Tunnel"
  | ignored => "Ignored"

/-- What tells tunnels and ignored interfaces: beginnings of names and kinds of links. -/
structure LinkFilter where
  /-- Interfaces whose names begin like this are ignored. -/
  ignoredPrefixes : List String := ["docker", "veth", "br-", "virbr", "vnet", "podman"]
  /-- Links of these kinds are tunnels. -/
  tunnelKinds : List String :=
    ["wireguard", "tun", "ipip", "ip6tnl", "sit", "gre", "gretap", "ip6gre", "ip6gretap", "vti",
     "vti6", "xfrm", "geneve", "amt"]
  /-- Interfaces whose names begin like this are tunnels. -/
  tunnelPrefixes : List String := ["wg", "tun", "tap", "tailscale", "zt", "nordlynx", "ppp"]
  deriving DecidableEq, Repr

/-- The hardware types of tunnels: none, void, point-to-point, and the tunnels over IP. -/
def tunnelTypes : List UInt16 := [0xfffe, 0xffff, 512, 768, 769, 776, 778, 823]

namespace LinkFilter

/-- The class of a link. The first test that applies decides. -/
def classOf (filter : LinkFilter) (link : Link) : LinkClass :=
  if link.isLoopback then .loopback
  else if tunnelTypes.contains link.layerType then .tunnel
  else if link.kind.any filter.tunnelKinds.contains then .tunnel
  else if filter.tunnelPrefixes.any (Text.startsWith link.name) then .tunnel
  else if filter.ignoredPrefixes.any (Text.startsWith link.name) then .ignored
  else .served

/-- Whether a link is served. -/
def serves (filter : LinkFilter) (link : Link) : Bool := filter.classOf link == .served

end LinkFilter

end LinkBus
