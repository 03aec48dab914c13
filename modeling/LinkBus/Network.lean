import LinkBus.Inventory
import LinkBus.Numbering

/-!
# The network

The inventory together with the numbers of the served interfaces. After each batch of messages the
numbers of the touched interfaces are brought in line with the inventory.
-/

namespace LinkBus

/-- What the kernel side delivers: events that happened, or a snapshot after events were lost. -/
inductive Message
  | events (events : List Event)
  | snapshot (events : List Event)
  deriving DecidableEq, Repr

/-- Takes a message into account. -/
def Inventory.deliver (inv : Inventory) : Message → Inventory × Changes
  | .events events => inv.hearAll events
  | .snapshot events => inv.replaceBy events

/-- Takes messages into account, one after the other. -/
def Inventory.deliverAll (inv : Inventory) (messages : List Message) : Inventory × Changes :=
  messages.foldl
    (fun (inv, changes) m =>
      let (next, more) := inv.deliver m
      (next, changes.union more))
    (inv, .none)

/-- What is known of the network, and the numbers of the served interfaces. -/
structure Network where
  /-- What is known of the network. -/
  inventory : Inventory := {}
  /-- The numbers of the served interfaces. -/
  numbering : Numbering := {}
  deriving DecidableEq

namespace Network

/-- The network before anything is known. -/
def empty (filter : LinkFilter) : Network := { inventory := .empty filter }

/-- Brings the number of one interface in line with the inventory. -/
def renumberOne (inventory : Inventory) (now debounce : Nat) (numbering : Numbering)
    (index : UInt32) : Numbering :=
  let link := inventory.link? index
  (numbering.note index (link.map Link.name) (link.isSome && inventory.serves index) now
    debounce).1

/-- Brings the numbers of the touched interfaces in line with the inventory, in index order. -/
def renumber (s : Network) (changes : Changes) (now debounce : Nat) : Network :=
  { s with
    numbering := changes.toList.foldl (renumberOne s.inventory now debounce) s.numbering }

/-- Takes a batch of messages into account at some time. -/
def deliver (s : Network) (messages : List Message) (now debounce : Nat) : Network × Changes :=
  let (inventory, changes) := s.inventory.deliverAll messages
  ({ s with inventory }.renumber changes now debounce, changes)

/-- Takes events into account at some time. -/
def hearAll (s : Network) (events : List Event) (now debounce : Nat) : Network × Changes :=
  let (inventory, changes) := s.inventory.hearAll events
  ({ s with inventory }.renumber changes now debounce, changes)

/-- Retires the parked numbers whose time has come. -/
def retireDue (s : Network) (now : Nat) : Network × Changes :=
  let (numbering, retired) := s.numbering.retireDue now
  ({ s with numbering }, retired.foldl Changes.addIndex .none)

end Network

end LinkBus
