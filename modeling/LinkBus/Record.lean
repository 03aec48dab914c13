import LinkBus.Event
import LinkBus.Text.Digits

/-!
# Records

What is known of a link, an address or a route. A later report about a link changes what is known
of it: attributes that the report lacks keep their value, the hardware type and the flags always
change, and without a carrier attribute the carrier follows the lower-up flag.
-/

namespace LinkBus

/-- The link is administratively up. -/
def flagUp : UInt32 := 0x1

/-- The link is a loopback. -/
def flagLoopback : UInt32 := 0x8

/-- The layer below the link is up. -/
def flagLowerUp : UInt32 := 0x10000

/-- Whether a word has a flag set. -/
def hasFlag (word flag : UInt32) : Bool := word &&& flag != 0

/-- What is known of a link. -/
structure Link where
  /-- The interface. -/
  index : UInt32
  /-- The name of the interface. -/
  name : String
  /-- The hardware type. -/
  layerType : UInt16
  /-- The kind of a virtual link. -/
  kind : Option String
  /-- The flag word. -/
  flags : UInt32
  /-- The operational state. -/
  oper : OperState
  /-- Whether there is a carrier. -/
  carrier : Bool
  /-- The largest packet in bytes. -/
  mtu : UInt32
  /-- The bytes of the hardware address. -/
  hwAddress : List UInt8
  deriving DecidableEq, Repr

/-- The carrier according to a report. -/
def LinkReport.carrierOrFlag (e : LinkReport) : Bool := e.carrier.getD (hasFlag e.flags flagLowerUp)

namespace Link

/-- A link that was not known before its report. -/
def ofReport (e : LinkReport) : Link where
  index := e.index
  name := e.name.getD ""
  layerType := e.layerType
  kind := e.kind
  flags := e.flags
  oper := e.oper.getD .unknown
  carrier := e.carrierOrFlag
  mtu := e.mtu.getD 0
  hwAddress := e.hwAddress.getD []

/-- The link after a later report. -/
def after (r : Link) (e : LinkReport) : Link where
  index := r.index
  name := e.name.getD r.name
  layerType := e.layerType
  kind := e.kind.or r.kind
  flags := e.flags
  oper := e.oper.getD r.oper
  carrier := e.carrierOrFlag
  mtu := e.mtu.getD r.mtu
  hwAddress := e.hwAddress.getD r.hwAddress

/-- Whether the link is switched on. -/
def switchedOn (r : Link) : Bool := hasFlag r.flags flagUp

/-- Whether the link can carry traffic: it has a carrier and nothing below it is missing. -/
def carries (r : Link) : Bool :=
  r.carrier && r.oper != .lowerLayerDown && r.oper != .notPresent

/-- Whether the link only leads back to this host. -/
def isLoopback (r : Link) : Bool := r.layerType == 772 || hasFlag r.flags flagLoopback

/-- The hardware address in upper-case bytes joined by colons. -/
def mac (r : Link) : String :=
  String.ofList (List.intercalate [':'] (r.hwAddress.map Text.byteHexUpper))

end Link

/-- The address is still being checked for duplicates. -/
def flagTentative : UInt32 := 0x40

/-- The address may be used while it is being checked. -/
def flagOptimistic : UInt32 := 0x4

/-- The check found a duplicate of the address. -/
def flagDadFailed : UInt32 := 0x8

/-- From this scope on an address is of no use outside this host. -/
def scopeHost : UInt8 := 254

/-- What is known of an address of a link. -/
structure Address where
  /-- The interface. -/
  index : UInt32
  /-- The family of the address. -/
  family : Family
  /-- The address. -/
  address : Ip
  /-- The length of the network part in bits. -/
  prefixLen : UInt8
  /-- How far the address is valid. -/
  scope : UInt8
  /-- The flag word. -/
  flags : UInt32
  /-- The name that the address was given. -/
  label : Option String
  deriving DecidableEq, Repr

/-- What tells the addresses of one link apart: the address and its prefix length. -/
structure AddressId where
  address : Ip
  prefixLen : UInt8
  deriving DecidableEq, Repr

/-- The addresses of a link are ordered by address, then by prefix length. -/
instance : Key AddressId where
  code k := k.address.code ++ [k.prefixLen.toNat]
  code_injective a b h := by
    obtain ⟨a, p⟩ := a
    obtain ⟨b, q⟩ := b
    cases a <;> cases b <;>
      simp [Ip.code, BitVec.toNat_inj, UInt8.toNat_inj] at h <;> simp [h]

namespace Address

/-- The address that a report is about. -/
def ofReport (e : AddressReport) : Address where
  index := e.index
  family := e.address.family
  address := e.address
  prefixLen := e.prefixLen
  scope := e.scope
  flags := e.flags
  label := e.label

/-- The key of an address among those of its link. -/
def key (r : Address) : AddressId := ⟨r.address, r.prefixLen⟩

/-- Whether the address cannot be used yet. -/
def isTentative (r : Address) : Bool :=
  hasFlag r.flags flagTentative && !hasFlag r.flags flagOptimistic

/-- Whether the address belongs to this host alone or was found to be a duplicate. -/
def isUnusable (r : Address) : Bool :=
  hasFlag r.flags flagDadFailed || decide (scopeHost ≤ r.scope)

/-- Whether the address can be used. -/
def isUsable (r : Address) : Bool := !r.isTentative && !r.isUnusable

end Address

/-- What is known of a route. -/
structure Route where
  /-- The family of the route. -/
  family : Family
  /-- Where the route leads; absent for everywhere. -/
  destination : Option Ip
  /-- The length of the network part in bits. -/
  prefixLen : UInt8
  /-- The next hop. -/
  gateway : Option Ip
  /-- The interface that the route goes out of. -/
  oif : Option UInt32
  /-- Routes of smaller metric are preferred. -/
  metric : UInt32
  /-- The routing table that holds the route. -/
  table : UInt32
  deriving DecidableEq, Repr

/-- What tells routes apart. -/
structure RouteId where
  table : UInt32
  family : Family
  destination : Option Ip
  prefixLen : UInt8
  metric : UInt32
  oif : Option UInt32
  deriving DecidableEq, Repr

/-- The place of an optional part in key order: nothing comes before anything. -/
def optionCode {α : Type} (code : α → List Nat) : Option α → List Nat
  | none => [0]
  | some a => 1 :: code a

/-- Routes are ordered by table, family, destination, prefix length, metric and interface. -/
instance : Key RouteId where
  code k := [k.table.toNat, k.family.code] ++ optionCode Ip.code k.destination ++
    [k.prefixLen.toNat, k.metric.toNat] ++ optionCode (fun i => [i.toNat]) k.oif
  code_injective a b h := by
    obtain ⟨t, f, d, p, m, o⟩ := a
    obtain ⟨t', f', d', p', m', o'⟩ := b
    have hf : f.code = f'.code → f = f' := Family.code_injective
    rcases d with _ | d | d <;> rcases d' with _ | d' | d' <;> cases o <;> cases o' <;>
      simp [optionCode, Ip.code, BitVec.toNat_inj, UInt8.toNat_inj, UInt32.toNat_inj] at h <;>
      simp [h, hf h.2.1]

namespace Route

/-- The route that a report is about. -/
def ofReport (e : RouteReport) : Route where
  family := e.family
  destination := e.destination
  prefixLen := e.prefixLen
  gateway := e.gateway
  oif := e.oif
  metric := e.metric
  table := e.table

/-- The key of a route. -/
def key (r : Route) : RouteId :=
  ⟨r.table, r.family, r.destination, r.prefixLen, r.metric, r.oif⟩

/-- Whether the route leads everywhere. -/
def isDefault (r : Route) : Bool := r.prefixLen == 0

end Route

end LinkBus
