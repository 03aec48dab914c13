import LinkBus.Ip

/-!
# Properties

The properties of bus objects that are announced when they change: a list of names and values, with
the names in increasing order.
-/

namespace LinkBus

/-- The value of a property. -/
inductive AnnouncedValue
  | number (n : UInt32)
  | flag (b : Bool)
  | text (s : String)
  | path (p : String)
  | paths (ps : List String)
  | addresses (as : List (Ip × UInt8))
  deriving DecidableEq, Repr

/-- Names and values of properties, in increasing order of names. -/
abbrev Properties := List (String × AnnouncedValue)

namespace Properties

/-- The value of a property. -/
def get? (m : Properties) (name : String) : Option AnnouncedValue := m.lookup name

/-- The properties of the second list that the first one has another value for, or none. -/
def difference (old new : Properties) : Properties :=
  new.filter fun e => old.get? e.1 != some e.2

/-- The first list with the values of the second laid over its own. Properties that it did not have
come at its end. -/
def overlay (old changes : Properties) : Properties :=
  (old.map fun e => (e.1, (changes.get? e.1).getD e.2)) ++
    changes.filter fun e => (old.get? e.1).isNone

end Properties

end LinkBus
