import LinkBus.Config.Settings
import LinkBus.Duration
import LinkBus.Netlink.Answer
import LinkBus.Wire.Request

/-!
# The client of the kernel

One socket carries all requests, one after the other, each under a sequence number of its own. A
call takes no time if its answer is there, and its whole time limit if the answer never comes.

What a socket is ready for is only seen while the client waits. A time limit of zero leaves no time
to wait, so such a call gets as far as what was seen before.
-/

namespace LinkBus.Netlink

open Wire

/-- What a socket has been seen ready for. -/
structure Readiness where
  /-- A request can be sent. -/
  send : Bool := false
  /-- There was something to receive, and nobody has found the socket empty since. -/
  receive : Bool := false
  deriving DecidableEq, Repr

/-- The client at one moment. -/
structure Client where
  /-- Time limits and sizes. -/
  settings : NetlinkConfig := {}
  /-- The next sequence number. -/
  counter : UInt32 := 1
  /-- Whether changes are still taken. -/
  accepting : Bool := true
  /-- What waits on the socket. -/
  inbox : List Receipt := []
  /-- What the socket has been seen ready for. -/
  readiness : Readiness := {}
  /-- The kernel behind the socket. -/
  kernel : Kernel := {}
  deriving DecidableEq, Repr

/-- A result together with the time that it took, in milliseconds. -/
structure Timed (α : Type) where
  elapsed : Nat
  result : Except Failure α

/-- Takes the next sequence number off a counter, and tells the counter after it. Zero is left
out. -/
def nextSequence (counter : UInt32) : UInt32 × UInt32 :=
  if counter = 0 then (1, 2) else (counter, counter + 1)

namespace Client

/-- A client whose socket is open. -/
def connect (settings : NetlinkConfig) (kernel : Kernel) : Client × Except Failure Unit :=
  let (kernel, result) := kernel.openSocket 0
  ({ settings, kernel }, result)

/-- Waits for a moment, in which the client sees what its socket is ready for. -/
def idle (c : Client) : Client :=
  { c with readiness := ⟨true, c.readiness.receive || !c.inbox.isEmpty⟩ }

/-- Waits until a request can be sent. -/
def awaitSend (c : Client) : Client := if c.readiness.send then c else c.idle

/-- Sends a request and receives until it is answered. Only a patient call waits for the socket. -/
def ask {σ α : Type} (c : Client) (patient : Bool) (request : Request)
    (step : UInt32 → σ → Frame → Waiting σ α) (start : σ) : Client × Option (Except Failure α) :=
  let (seq, counter) := nextSequence c.counter
  let c := { c with counter }
  if !patient && !c.readiness.send then (c, none)
  else
    let c := c.awaitSend
    let (kernel, reply) := c.kernel.send (request.toBytes seq)
    let c := { c with kernel }
    match reply with
    | .error failure => (c, some (.error failure))
    | .ok receipts =>
      let c := { c with inbox := c.inbox ++ receipts }
      if !patient && !c.readiness.receive then (c, none)
      else
        let (answer, inbox) := await (room c.settings.receiveBuffer) (step seq) start c.inbox
        ({ c with inbox, readiness.receive := answer.isSome }, answer)

/-- Asks for one dump after the other and joins what they list. -/
def dumpAll (c : Client) (patient : Bool) (events : List Event) :
    List Request → Client × Option (Except Failure (List Event))
  | [] => (c, some (.ok events))
  | request :: rest =>
    match c.ask patient request dumpFrame [] with
    | (c, some (.ok more)) => dumpAll c patient (events ++ more) rest
    | (c, some (.error failure)) => (c, some (.error failure))
    | (c, none) => (c, none)

/-- Dumps links, addresses and routes. The limit is on sending and receiving together. -/
def dump (c : Client) : Client × Timed (List Event) :=
  let limit := c.settings.startupTimeout.toNat
  match c.dumpAll (limit ≠ 0) [] [.dumpLinks, .dumpAddresses, .dumpRoutes] with
  | (c, some result) => (c, ⟨0, result⟩)
  | (c, none) => (c, ⟨limit, .error (.timeout s!"netlink dump exceeded {durationText limit}")⟩)

/-- Turns an interface on or off. The limit is on receiving alone. -/
def setLink (c : Client) (index : UInt32) (up : Bool) : Client × Timed Unit :=
  if c.accepting then
    let limit := c.settings.requestTimeout.toNat
    match c.awaitSend.ask (limit ≠ 0) (.setLink index up) ackFrame () with
    | (c, some result) => (c, ⟨0, result⟩)
    | (c, none) =>
      let lead := s!"kernel did not acknowledge link set for index {index} within "
      (c, ⟨limit, .error (.timeout (lead ++ durationText limit))⟩)
  else (c, ⟨0, .error .shuttingDown⟩)

/-- Takes no more changes. -/
def refuseChanges (c : Client) : Client := { c with accepting := false }

end Client

/-- What waiting for the socket to be free leads to: whether it was free in time, and when waiting
ended. The socket is in use up to some time. -/
def awaitFree (now busyUntil limit : Nat) : Bool × Nat :=
  if busyUntil ≤ now + limit then (true, max now busyUntil) else (false, now + limit)

end LinkBus.Netlink
