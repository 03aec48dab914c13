import LinkBus.Bus.Context
import LinkBus.InterfaceName

/-!
# Turning interfaces on and off

The only thing that clients can change is the administrative state of a device. Every request goes
through `switchLink`, which refuses interfaces that the bus does not show. The outcome of work tells
which requests were made, in order, also if it failed; a failure ends it.
-/

namespace LinkBus.Bus

/-- A request to turn an interface on or off. -/
structure LinkRequest where
  index : UInt32
  up : Bool
  deriving DecidableEq, Repr

/-- How requests are met. -/
abbrev LinkSwitch := LinkRequest → Except Failure Unit

/-- The outcome of work: the requests that it made, and its result. -/
structure Outcome (α : Type) where
  requests : List LinkRequest := []
  result : Except BusError α

namespace Outcome

/-- Work without requests. -/
def ofExcept {α : Type} (result : Except BusError α) : Outcome α := { result }

/-- Work without requests that may fail. -/
def ofFailable {α : Type} (result : Except Failure α) : Outcome α :=
  { result := result.mapError Failure.toBusError }

/-- Goes on with the result of some work, unless it failed. -/
def andThen {α β : Type} (first : Outcome α) (next : α → Outcome β) : Outcome β :=
  match first.result with
  | .error error => { requests := first.requests, result := .error error }
  | .ok a =>
    let second := next a
    { requests := first.requests ++ second.requests, result := second.result }

/-- Work in sequence makes its requests in sequence. -/
instance : Monad Outcome where
  pure a := { result := .ok a }
  bind := andThen

end Outcome

/-- Turns an interface on or off, if the bus shows it. -/
def switchLink (c : Context) (control : LinkSwitch) (index : UInt32) (up : Bool) : Outcome Unit :=
  if c.network.shows index then
    { requests := [⟨index, up⟩], result := (control ⟨index, up⟩).mapError Failure.toBusError }
  else .ofFailable (.error (.notFound s!"interface {index} is not a managed device"))

/-- Turns interfaces on or off, one after the other, up to the first failure. -/
def switchEach (c : Context) (control : LinkSwitch) (up : Bool) : List UInt32 → Outcome Unit
  | [] => pure ()
  | index :: rest => do
    switchLink c control index up
    switchEach c control up rest

/-- Turns all devices on or off. -/
def switchAll (c : Context) (control : LinkSwitch) (up : Bool) : Outcome Unit :=
  switchEach c control up c.network.shown

/-- The device that an object path belongs to. -/
def resolve (c : Context) (path : String) : Outcome Device :=
  .ofFailable ((c.network.deviceAt path).mapError LookupFault.toFailure)

/-- Turns the device that an object path belongs to on or off. -/
def switchAt (c : Context) (control : LinkSwitch) (path : String) (up : Bool) : Outcome Device := do
  let target ← resolve c path
  switchLink c control target.index up
  .ofFailable ((c.network.device target.index).mapError LookupFault.toFailure)

end LinkBus.Bus
