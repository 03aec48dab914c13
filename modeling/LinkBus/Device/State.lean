import LinkBus.Record

/-!
# The state of a device

The kernel does not know whether a device is activated. The state follows from the administrative
flag, the carrier and the addresses, and is computed whenever it is needed.
-/

namespace LinkBus

/-- The states that a device can be in. -/
inductive DeviceState
  | unavailable
  | disconnected
  | ipConfig
  | activated
  | deactivating
  deriving DecidableEq, Repr

namespace DeviceState

/-- The number that stands for a state on the bus. -/
def code : DeviceState → UInt32
  | unavailable => 20
  | disconnected => 30
  | ipConfig => 70
  | activated => 100
  | deactivating => 110

/-- The state of a number. -/
def ofCode? (n : Nat) : Option DeviceState :=
  [unavailable, disconnected, ipConfig, activated, deactivating].find? fun s => s.code.toNat == n

/-- The name of a state. -/
def name : DeviceState → String
  | unavailable => "Unavailable"
  | disconnected => "Disconnected"
  | ipConfig => "IpConfig"
  | activated => "Activated"
  | deactivating => "Deactivating"

/-- Whether a device in this state has a connection. -/
def isConnected : DeviceState → Bool
  | ipConfig | activated => true
  | _ => false

end DeviceState

/-- Why a device entered a state. -/
inductive StateReason
  | none
  | userRequested
  | carrier
  | ipConfigExpired
  deriving DecidableEq, Repr

/-- The number that stands for a reason on the bus. -/
def StateReason.code : StateReason → UInt32
  | none => 0
  | userRequested => 39
  | carrier => 40
  | ipConfigExpired => 6

/-- What the state of a device follows from. -/
structure DeviceCondition where
  /-- Whether the link is switched on. -/
  switchedOn : Bool
  /-- Whether the link can carry traffic. -/
  carrier : Bool
  /-- How many addresses can be used. -/
  usable : Nat
  /-- How many addresses may be usable later. -/
  tentative : Nat
  deriving DecidableEq, Repr

namespace DeviceCondition

/-- The condition that a link and its addresses put a device in. -/
def ofRecords (link : Link) (addresses : List Address) : DeviceCondition where
  switchedOn := link.switchedOn
  carrier := link.carries
  usable := addresses.countP Address.isUsable
  tentative := addresses.countP fun a => !a.isUsable && a.isTentative

/-- The state of a device. -/
def state (condition : DeviceCondition) : DeviceState :=
  if !condition.switchedOn || !condition.carrier then .unavailable
  else if 0 < condition.usable then .activated
  else if 0 < condition.tentative then .ipConfig
  else .disconnected

/-- Why a device in this condition is in a state. -/
def reason (condition : DeviceCondition) : DeviceState → StateReason
  | .unavailable => if condition.switchedOn then .carrier else .userRequested
  | .disconnected => .ipConfigExpired
  | _ => .none

end DeviceCondition

/-- The states that a device passes through on the way from one to another, without the first. A
connection that is lost is first torn down. -/
def DeviceState.passage (old new : DeviceState) : List DeviceState :=
  if old = new then []
  else if old.isConnected && (new == .disconnected || new == .unavailable) then
    [.deactivating, new]
  else [new]

end LinkBus
