import LinkBus.Bus.Presence
import LinkBus.Netlink.Reader
import LinkBus.Pipeline

/-!
# The service

The service dumps the kernel's tables, serves them on the bus under its name, and keeps them up to
date: the reader passes events to the pipeline, and what the pipeline publishes is carried out on
the object tree. It ends when it is told to or when the reader gives up.

Times are milliseconds since the service was ready.
-/

namespace LinkBus

open Netlink Bus

/-- Dumps the kernel's tables. -/
def firstNetwork (config : Config) (client : Client) : Client × Timed Network :=
  let (client, answer) := client.dump
  let debounce := config.pipeline.readdDebounce.toNat
  let network (events : List Event) : Network :=
    ((Network.empty config.filter).hearAll events 0 debounce).1
  (client, ⟨answer.elapsed, answer.result.map network⟩)

/-- What there is to see, without serving it. The client tells what the kernel was asked. -/
def survey (config : Config) (kernel : Kernel) : Client × Except Failure Network :=
  match Client.connect config.netlink kernel with
  | (client, .error failure) => (client, .error failure)
  | (client, .ok _) =>
    let (client, answer) := firstNetwork config client
    (client, answer.result)

/-- How the bus answers the request for a name: with a number, or by refusing it. -/
inductive NameAnswer
  | code (n : Nat)
  | refused (error : BusError)

/-- What is asked of the bus itself. -/
inductive BusCall
  | requestName (name : String) (flags : Nat)
  | releaseName (name : String)
  deriving DecidableEq, Repr

/-- The request not to wait for a name that is taken. -/
def doNotQueue : Nat := 4

/-- Whether a name was got: the service owns it now, or has owned it before. -/
def acquireName (name : String) : NameAnswer → Except Failure Unit
  | .code 1 | .code 4 => .ok ()
  | .code _ => .error (.nameTaken name)
  | .refused error => .error (.bus (.reply error))

/-- The service while it runs. -/
structure Service where
  /-- The settings. -/
  config : Config
  /-- Reads events from the kernel. -/
  reader : Reader
  /-- Gathers and applies them. -/
  pipeline : Pipeline
  /-- The objects that are served. -/
  tree : Tree
  /-- What was sent to all clients, and when. -/
  sent : List (Nat × Broadcast) := []

/-- How starting went: the client, what was asked of the bus, and the service if it runs. -/
structure Startup where
  client : Client
  calls : List BusCall := []
  result : Except Failure Service

namespace Service

/-- Opens the multicast socket and dumps. Events that happen during the dump wait on the socket. -/
def watch (config : Config) (kernel : Kernel) : Client × Except Failure Network :=
  match Client.connect config.netlink kernel with
  | (client, .error failure) => (client, .error failure)
  | (client, .ok _) =>
    match client.kernel.openSocket eventGroups with
    | (kernel, .error failure) => ({ client with kernel }, .error failure)
    | (kernel, .ok _) =>
      let (client, answer) := firstNetwork config { client with kernel }
      (client, answer.result)

/-- The service that is ready to run. -/
def ready (config : Config) (client : Client) (network : Network) : Service :=
  let (presence, _) := Presence.introduce { network }
  { config
    reader := { client }
    pipeline :=
      { network
        memo := presence.memo
        window := config.pipeline.coalesceWindow.toNat
        debounce := config.pipeline.readdDebounce.toNat }
    tree := presence.tree }

/-- Starts the service. `bus` is the answer to the request for a name, or `none` if there is no
bus. -/
def start (config : Config) (kernel : Kernel) (bus : Option NameAnswer) : Startup :=
  match watch config kernel with
  | (client, .error failure) => { client, result := .error failure }
  | (client, .ok network) =>
    match bus with
    | none => { client, result := .error (.bus .unreachable) }
    | some answer =>
      let name := config.bus.serviceName
      { client
        calls := [.requestName name doNotQueue]
        result := (acquireName name answer).map fun _ => ready config client network }

/-- What a bus object sees now. The files of the host are given by their bytes. -/
def context (d : Service) : Context := { network := d.pipeline.network }

/-- Carries out a publication. -/
def carryOut (d : Service) (p : Publication) : Service :=
  let (tree, sent) := d.tree.carryOutAll { network := p.network } p.plan
  { d with tree, sent := d.sent ++ sent.map (p.at_, ·) }

/-- Runs up to some time: the reader, then the pipeline with what was passed on, then what was
published. -/
def run (d : Service) (limit : Nat) : Service :=
  let reader := d.reader.run limit
  let pipeline := (reader.passed.foldl (fun p m => p.meet m.1 (.message m.2)) d.pipeline).run limit
  pipeline.published.foldl carryOut
    { d with
      reader := { reader with passed := [] }
      pipeline := { pipeline with published := [] } }

/-- What happens to the reader from outside. -/
def feel (d : Service) (s : Reader.Stimulus) : Service := { d with reader := d.reader.feel s }

/-- Calls a method. -/
def call (d : Service) (control : LinkSwitch) (path interface member : String)
    (arguments : Body) : Response :=
  d.tree.call d.context control path interface member arguments

/-- Ends the service: takes no more changes, stops the reader and the pipeline, gives up the name.
The result is the reader's. -/
def stop (d : Service) : Client × List BusCall × Except Failure Unit :=
  let reader := { d.reader with client := d.reader.client.refuseChanges }.stop
  (reader.client, [.releaseName d.config.bus.serviceName],
    (reader.outcome?.map Prod.snd).getD (.ok ()))

end Service

end LinkBus
