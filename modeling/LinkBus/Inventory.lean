import LinkBus.Changes
import LinkBus.Filter

/-!
# The inventory

The tables of links, addresses and default routes, and the set of links that are served. Each event
inserts or removes what it is about, so that hearing the same fact twice changes nothing, and
reports what it changed. A snapshot replaces everything that was known.
-/

namespace LinkBus

/-- Everything that is known of the kernel's network state. -/
structure Inventory where
  /-- Decides which links are served. -/
  filter : LinkFilter := {}
  /-- The links by index. -/
  links : Table UInt32 Link := ∅
  /-- The addresses of each link that has any. -/
  addresses : Table UInt32 (Table AddressId Address) := ∅
  /-- The default routes. -/
  routes : Table RouteId Route := ∅
  /-- The links that are served. -/
  served : IndexSet := ∅
  deriving DecidableEq

/-- The routing table of the host's own addresses. -/
def localTable : UInt32 := 255

/-- Only default routes that are unicast and not in the local table matter. -/
def RouteReport.isTracked (e : RouteReport) : Bool :=
  e.prefixLen == 0 && e.unicast && e.table != localTable

namespace Inventory

/-- The inventory that knows nothing. -/
def empty (filter : LinkFilter) : Inventory := { filter }

/-- What is known of a link. -/
def link? (inv : Inventory) (index : UInt32) : Option Link := inv.links.find? index

/-- The first link of a name. -/
def linkNamed? (inv : Inventory) (name : String) : Option Link :=
  inv.links.values.find? fun l => l.name == name

/-- The addresses of a link as a table. -/
def addressTable (inv : Inventory) (index : UInt32) : Table AddressId Address :=
  (inv.addresses.find? index).getD ∅

/-- The addresses of a link in key order. -/
def addressesOf (inv : Inventory) (index : UInt32) : List Address :=
  (inv.addressTable index).values

/-- Whether a link is served. -/
def serves (inv : Inventory) (index : UInt32) : Bool := inv.served.contains index

/-- Of the routes in a list, one with the smallest rank; the first of several. -/
def minByRank (rank : Route → List Nat) : List Route → Option Route
  | [] => none
  | r :: rest =>
    match minByRank rank rest with
    | none => some r
    | some best => if rank best < rank r then some best else some r

/-- The default routes of a family. -/
def defaultRoutes (inv : Inventory) (family : Family) : List Route :=
  inv.routes.values.filter fun r => r.family == family && r.isDefault

/-- The default route of a family through an interface that has the smallest metric. -/
def routeVia? (inv : Inventory) (index : UInt32) (family : Family) : Option Route :=
  minByRank (fun r => [r.metric.toNat])
    ((inv.defaultRoutes family).filter fun r => r.oif == some index)

/-- Replaces the addresses of a link. An empty table is not kept. -/
def setAddresses (inv : Inventory) (index : UInt32) (table : Table AddressId Address) : Inventory :=
  { inv with
    addresses := if table.isEmpty then inv.addresses.erase index
      else inv.addresses.insert index table }

/-- The link that a report leads to. A report without a name about an unknown link leads to none. -/
def nextLink? (inv : Inventory) (e : LinkReport) : Option Link :=
  match inv.link? e.index with
  | some current => some (current.after e)
  | none => if e.lacksName then none else some (.ofReport e)

/-- Stores a link and decides whether it is served. -/
def putLink (inv : Inventory) (link : Link) : Inventory :=
  { inv with
    links := inv.links.insert link.index link
    served := if inv.filter.serves link then inv.served.add link.index
      else inv.served.erase link.index }

/-- Takes a report about a link into account. -/
def learnLink (inv : Inventory) (e : LinkReport) : Inventory × Changes :=
  match inv.nextLink? e with
  | none => (inv, .none)
  | some link =>
    if inv.link? e.index = some link then (inv, .none)
    else (inv.putLink link, Changes.none.addIndex link.index)

/-- Forgets a link with its addresses and the routes through it. -/
def removeLink (inv : Inventory) (index : UInt32) : Inventory :=
  { inv with
    links := inv.links.erase index
    addresses := inv.addresses.erase index
    served := inv.served.erase index
    routes := inv.routes.filter fun _ r => r.oif != some index }

/-- Takes the removal of a link into account. -/
def forgetLink (inv : Inventory) (index : UInt32) : Inventory × Changes :=
  let known := inv.links.contains index || inv.addresses.contains index
  let routed := inv.routes.values.any fun r => r.oif == some index
  (inv.removeLink index,
    { indices := if known then IndexSet.add ∅ index else ∅, routes := routed })

/-- Takes an address into account. -/
def learnAddress (inv : Inventory) (e : AddressReport) : Inventory × Changes :=
  let address := Address.ofReport e
  let table := inv.addressTable e.index
  if table.find? address.key = some address then (inv, .none)
  else (inv.setAddresses e.index (table.insert address.key address), Changes.none.addIndex e.index)

/-- Takes the removal of an address into account. -/
def forgetAddress (inv : Inventory) (e : AddressReport) : Inventory × Changes :=
  let key := (Address.ofReport e).key
  let table := inv.addressTable e.index
  if table.contains key then
    (inv.setAddresses e.index (table.erase key), Changes.none.addIndex e.index)
  else (inv, .none)

/-- What the change of a route touches: the routes, and the interface that it goes out of. -/
def routeChange (route : Route) : Changes :=
  let changes := Changes.none.addRoutes
  match route.oif with
  | some index => changes.addIndex index
  | none => changes

/-- Takes a route into account. -/
def learnRoute (inv : Inventory) (e : RouteReport) : Inventory × Changes :=
  let route := Route.ofReport e
  if e.isTracked && inv.routes.find? route.key != some route then
    ({ inv with routes := inv.routes.insert route.key route }, routeChange route)
  else (inv, .none)

/-- Takes the removal of a route into account. -/
def forgetRoute (inv : Inventory) (e : RouteReport) : Inventory × Changes :=
  let key := (Route.ofReport e).key
  match if e.isTracked then inv.routes.find? key else none with
  | some old => ({ inv with routes := inv.routes.erase key }, routeChange old)
  | none => (inv, .none)

/-- Takes one event into account and says what it changed. -/
def hear (inv : Inventory) : Event → Inventory × Changes
  | .newLink e => inv.learnLink e
  | .delLink e => inv.forgetLink e.index
  | .newAddress e => inv.learnAddress e
  | .delAddress e => inv.forgetAddress e
  | .newRoute e => inv.learnRoute e
  | .delRoute e => inv.forgetRoute e

/-- Takes events into account, one after the other. -/
def hearAll (inv : Inventory) (events : List Event) : Inventory × Changes :=
  events.foldl
    (fun (inv, changes) e =>
      let (next, more) := inv.hear e
      (next, changes.union more))
    (inv, .none)

/-- The inventory that a snapshot describes. -/
def ofSnapshot (filter : LinkFilter) (snapshot : List Event) : Inventory :=
  ((empty filter).hearAll snapshot).1

/-- The interfaces that two inventories know different links or addresses of, and whether their
routes differ. -/
def difference (old new : Inventory) : Changes :=
  let differs (index : UInt32) : Bool :=
    old.links.find? index != new.links.find? index ||
      old.addresses.find? index != new.addresses.find? index
  let known := old.links.keys ++ new.links.keys ++ old.addresses.keys ++ new.addresses.keys
  { indices := (known.filter differs).foldl IndexSet.add ∅
    routes := old.routes != new.routes }

/-- Replaces everything by what a snapshot describes. -/
def replaceBy (inv : Inventory) (snapshot : List Event) : Inventory × Changes :=
  let fresh := ofSnapshot inv.filter snapshot
  (fresh, inv.difference fresh)

end Inventory

end LinkBus
