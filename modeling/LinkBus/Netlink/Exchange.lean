import LinkBus.Netlink.Client

/-!
# Calls that share the request socket

Changes and dumps are asked for at any time, also while others are under way. They share one socket:
a call takes it, sends on it and receives, and leaves it at its end, whether it was answered, its
time was over, or nobody waited for it any more. What comes for it after that stays on the socket
and is received by the call that takes it next. A change draws its sequence number before it takes
the socket, a dump draws one before each of its requests.

Each move of `Exchange.step?` is one thing that happens; moves follow one another in any order in
which they are possible.
-/

namespace LinkBus.Netlink

open Wire

/-- What a frame means to a call that waits for the answer to a request, and has gathered some
events of it. -/
def hear (request : Request) (seq : UInt32) (events : List Event) (frame : Frame) :
    Waiting (List Event) (List Event) :=
  match request with
  | .setLink .. =>
    match ackFrame seq () frame with
    | .more _ => .more events
    | .answered result => .answered (result.map fun _ => events)
  | _ => dumpFrame seq events frame

/-- The failure of a call whose time is over. -/
def overdue (settings : NetlinkConfig) : Request → Failure
  | .setLink index _ =>
    let lead := s!"kernel did not acknowledge link set for index {index} within "
    .timeout (lead ++ durationText settings.requestTimeout.toNat)
  | _ => .timeout s!"netlink dump exceeded {durationText settings.startupTimeout.toNat}"

/-- How far a call is. -/
inductive Call.Stage
  /-- It waits for the socket, maybe with a number. -/
  | waiting (seq : Option UInt32)
  /-- It has the socket, and needs a number. -/
  | holding
  /-- It has the socket and a number, and waits until it can send. -/
  | sending (seq : UInt32)
  /-- It has sent its request, and has gathered some events. -/
  | receiving (seq : UInt32) (events : List Event)
  /-- It has come to its end. -/
  | ended (result : Except Failure (List Event))
  /-- Nobody waits for it any more. -/
  | dropped

/-- A call: what it asks for. -/
structure Call where
  /-- What it asks for, one request after the other. -/
  requests : List Request
  /-- The requests that were not answered yet. -/
  left : List Request
  /-- What the answers so far have listed. -/
  listed : List Event := []
  /-- How far it is. -/
  stage : Call.Stage

namespace Call

/-- A call that changes an interface. -/
def change (index : UInt32) (up : Bool) (stage : Stage) : Call :=
  { requests := [.setLink index up], left := [.setLink index up], stage }

/-- A call that dumps all tables. -/
def dump : Call :=
  { requests := [.dumpLinks, .dumpAddresses, .dumpRoutes]
    left := [.dumpLinks, .dumpAddresses, .dumpRoutes]
    stage := .waiting none }

/-- Takes the socket. -/
def take? (call : Call) : Option Call :=
  match call.stage with
  | .waiting (some seq) => some { call with stage := .sending seq }
  | .waiting none => some { call with stage := .holding }
  | _ => none

/-- Whether the call is under way. -/
def isUnderWay (call : Call) : Bool :=
  match call.stage with
  | .ended _ | .dropped => false
  | _ => true

/-- Whether the time of the call can be over. That of a change begins when it has sent its request,
that of a dump when it has the socket. -/
def canExpire (call : Call) : Bool :=
  match call.stage, call.left with
  | .receiving .., _ => true
  | .holding, .setLink .. :: _ | .sending _, .setLink .. :: _ => false
  | .holding, _ | .sending _, _ => true
  | _, _ => false

/-- Goes on after the answer to a request: at the end of the call, or with the requests that are
left. -/
def settle (call : Call) (left : List Request) : Except Failure (List Event) → Call
  | .error failure => { call with stage := .ended (.error failure) }
  | .ok more =>
    let listed := call.listed ++ more
    { call with left, listed, stage := if left.isEmpty then .ended (.ok listed) else .holding }

/-- Goes on after what was received. -/
def receive (size : Nat) (call : Call) (request : Request) (left : List Request) (seq : UInt32)
    (events : List Event) : Receipt → Call
  | .fault errno => call.settle left (.error (.io (.errno errno)))
  | .datagram bytes =>
    match scan (hear request seq) events (readFrames (bytes.take size)) with
    | .more events => { call with stage := .receiving seq events }
    | .answered result => call.settle left result

end Call

/-- What happened on the socket and to the sequence numbers. -/
inductive Happening
  /-- A call drew a number. -/
  | drew (call : Nat) (seq : UInt32)
  /-- A call sent a request. -/
  | sent (call : Nat) (seq : UInt32) (request : Request)
  /-- Something came to the socket. -/
  | queued (receipt : Receipt)
  deriving DecidableEq

/-- The calls, and the socket that they share. -/
structure Exchange where
  /-- Time limits and sizes. -/
  settings : NetlinkConfig := {}
  /-- The next sequence number. -/
  counter : UInt32 := 1
  /-- Whether changes are still taken. -/
  accepting : Bool := true
  /-- What waits on the socket. -/
  inbox : List Receipt := []
  /-- The call that has the socket. -/
  holder : Option Nat := none
  /-- All calls so far. -/
  calls : List Call := []
  /-- What happened so far. -/
  log : List Happening := []

/-- One thing that happens. A call is named by its place among the calls. -/
inductive Move
  /-- A change is asked for. -/
  | change (index : UInt32) (up : Bool)
  /-- A dump is asked for. -/
  | dump
  /-- A call takes the socket. -/
  | take (call : Nat)
  /-- A call draws the number of its next request. -/
  | draw (call : Nat)
  /-- A call sends its request. -/
  | send (call : Nat)
  /-- The request of a call cannot be sent. -/
  | fail (call : Nat) (errno : Int)
  /-- A call receives what has waited longest. -/
  | receive (call : Nat)
  /-- The time of a call is over. -/
  | expire (call : Nat)
  /-- Nobody waits for a call any more. -/
  | drop (call : Nat)
  /-- From now on no change is taken. -/
  | refuseChanges
  /-- Something comes to the socket. -/
  | queue (receipt : Receipt)

namespace Exchange

/-- Replaces a call. The socket is left by a call that is no longer under way. -/
def put (e : Exchange) (c : Nat) (call : Call) : Exchange :=
  { e with
    calls := e.calls.set c call
    holder := if call.isUnderWay then e.holder else e.holder.filter (· != c) }

/-- Adds a call. -/
def add (e : Exchange) (call : Call) : Exchange := { e with calls := e.calls ++ [call] }

/-- Draws a number for a call. -/
def draw (e : Exchange) (c : Nat) : Exchange :=
  { e with
    counter := (nextSequence e.counter).2
    log := e.log ++ [.drew c (nextSequence e.counter).1] }

/-- The exchange after a move, if the move is possible. -/
def step? (e : Exchange) : Move → Option Exchange
  | .change index up =>
    if e.accepting then
      some ((e.draw e.calls.length).add
        (.change index up (.waiting (some (nextSequence e.counter).1))))
    else some (e.add (.change index up (.ended (.error .shuttingDown))))
  | .dump => some (e.add .dump)
  | .take c => do
    let call ← e.calls[c]?
    let call ← call.take?
    if e.holder.isNone then some { e.put c call with holder := some c } else none
  | .draw c => do
    let call ← e.calls[c]?
    match call.stage with
    | .holding =>
      some ((e.draw c).put c { call with stage := .sending (nextSequence e.counter).1 })
    | _ => none
  | .send c => do
    let call ← e.calls[c]?
    match call.stage, call.left with
    | .sending seq, request :: _ =>
      some ({ e with log := e.log ++ [Happening.sent c seq request] }.put c
        { call with stage := .receiving seq [] })
    | _, _ => none
  | .fail c errno => do
    let call ← e.calls[c]?
    match call.stage with
    | .sending _ => some (e.put c (call.settle [] (.error (.io (.errno errno)))))
    | _ => none
  | .receive c => do
    let call ← e.calls[c]?
    match call.stage, call.left, e.inbox with
    | .receiving seq events, request :: left, receipt :: inbox =>
      some ({ e with inbox }.put c
        (call.receive (room e.settings.receiveBuffer) request left seq events receipt))
    | _, _, _ => none
  | .expire c => do
    let call ← e.calls[c]?
    match call.left with
    | request :: _ =>
      if call.canExpire then
        some (e.put c { call with stage := .ended (.error (overdue e.settings request)) })
      else none
    | [] => none
  | .drop c => do
    let call ← e.calls[c]?
    if call.isUnderWay then some (e.put c { call with stage := .dropped }) else none
  | .refuseChanges => some { e with accepting := false }
  | .queue receipt =>
    some { e with inbox := e.inbox ++ [receipt], log := e.log ++ [.queued receipt] }

/-- The exchange after moves, if they are possible one after the other. -/
def run? (e : Exchange) (moves : List Move) : Option Exchange := moves.foldlM step? e

end Exchange

end LinkBus.Netlink
