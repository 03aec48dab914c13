import LinkBus.Table

/-!
# Changes

Which interfaces changed, and whether any route did.
-/

namespace LinkBus

/-- What changed since some moment. -/
structure Changes where
  /-- The interfaces that changed. -/
  indices : IndexSet := ∅
  /-- Whether any route changed. -/
  routes : Bool := false
  deriving DecidableEq

namespace Changes

/-- Nothing changed. -/
def none : Changes := {}

/-- Adds an interface. -/
def addIndex (c : Changes) (index : UInt32) : Changes := { c with indices := c.indices.add index }

/-- Adds the routes. -/
def addRoutes (c : Changes) : Changes := { c with routes := true }

/-- What changed on one of two occasions or on both. -/
def union (a b : Changes) : Changes where
  indices := Table.union a.indices b.indices
  routes := a.routes || b.routes

/-- Whether nothing changed. -/
def isEmpty (c : Changes) : Bool := c.indices.isEmpty && !c.routes

/-- The changed interfaces in increasing order. -/
def toList (c : Changes) : List UInt32 := c.indices.keys

end Changes

end LinkBus
