import LinkBus.Table

/-!
# Stable numbers for interfaces

Every served interface gets the next free number, which ends the paths of its bus objects. When it
disappears its number is parked for a while: if the same interface comes back in time it keeps its
number, otherwise the number is retired. No number is ever given twice.

Times are milliseconds since some fixed moment.
-/

namespace LinkBus

/-- The number of an interface. While `parkedUntil` holds a time the number is parked until then. -/
structure Holding where
  /-- The number itself. -/
  number : Nat
  /-- The name under which the interface was last seen. -/
  name : String
  /-- When the number is retired, while it is parked. -/
  parkedUntil : Option Nat := none
  deriving DecidableEq, Repr

/-- Whether the number is in use. -/
def Holding.inUse (a : Holding) : Bool := a.parkedUntil.isNone

/-- The numbers of all interfaces, and the last one given. -/
structure Numbering where
  /-- The number that was given last; zero before any was. -/
  last : Nat := 0
  /-- The numbers of interfaces, in use or parked. -/
  holdings : Table UInt32 Holding := ∅
  deriving DecidableEq

/-- What an observation did to the number of an interface. -/
inductive NumberingChange
  | unchanged
  | given (number : Nat)
  | returned (number : Nat)
  | parked (number : Nat)
  deriving DecidableEq, Repr

namespace Numbering

/-- The number in use for an interface. -/
def number? (n : Numbering) (index : UInt32) : Option Nat :=
  ((n.holdings.find? index).filter Holding.inUse).map Holding.number

/-- The interface that uses a number. -/
def holder? (n : Numbering) (number : Nat) : Option UInt32 :=
  (n.holdings.entries.find? fun e => e.2.number == number && e.2.inUse).map Prod.fst

/-- Stores what is known of the number of an interface. -/
def put (n : Numbering) (index : UInt32) (a : Holding) : Numbering :=
  { n with holdings := n.holdings.insert index a }

/-- Gives an interface the next number. -/
def giveNext (n : Numbering) (index : UInt32) (name : String) : Numbering × NumberingChange :=
  let number := n.last + 1
  ({ last := number
     holdings := n.holdings.insert index { number, name } },
    .given number)

/-- Takes into account whether an interface is served at some time, and under which name. A parked
number goes back to an interface of the same name only. -/
def note (n : Numbering) (index : UInt32) (name : Option String) (served : Bool)
    (now debounce : Nat) : Numbering × NumberingChange :=
  match n.holdings.find? index, served with
  | some a, true =>
    match a.parkedUntil with
    | none => (n.put index { a with name := name.getD a.name }, .unchanged)
    | some _ =>
      if name.all (· == a.name) then
        (n.put index { a with parkedUntil := none }, .returned a.number)
      else n.giveNext index (name.getD "")
  | some a, false =>
    match a.parkedUntil with
    | some _ => (n, .unchanged)
    | none => (n.put index { a with parkedUntil := some (now + debounce) }, .parked a.number)
  | none, true => n.giveNext index (name.getD "")
  | none, false => (n, .unchanged)

/-- Whether a number is parked and its time has come. -/
def isDue (now : Nat) (a : Holding) : Bool := a.parkedUntil.any (· ≤ now)

/-- Retires the parked numbers whose time has come, and lists the interfaces that held them. -/
def retireDue (n : Numbering) (now : Nat) : Numbering × List UInt32 :=
  ({ n with holdings := n.holdings.filter fun _ a => !isDue now a },
    (n.holdings.filter fun _ a => isDue now a).keys)

/-- The time at which the next parked number is retired. -/
def nextRetirement? (n : Numbering) : Option Nat :=
  (n.holdings.values.filterMap Holding.parkedUntil).min?

end Numbering

end LinkBus
